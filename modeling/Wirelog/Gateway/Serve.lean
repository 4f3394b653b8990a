import Wirelog.Gateway.Tunnel
/-!
The messages of a client. Besides requests to pass on and requests for tunnels, there is one path
under which a proxy gives out the certificate of its authority.
-/
namespace Wirelog.Gateway

/-- `CA_CERT_PATH`: the path of the certificate. -/
def certificatePath : String := "/_har_proxy/cert"

/-- Whether a request is for the certificate: it names the path alone and does not come out of a
tunnel. -/
def asksForCertificate (inside : Option String) (r : Http.Request) : Bool :=
  r.method == "GET" && r.uri.scheme.isNone && inside.isNone &&
    r.uri.pathText == certificatePath

/-- The answer with the certificate. -/
def certificateAnswer (g : Gateway) : Http.Response :=
  match g.authority with
  | some a =>
    { headers := .ofList [
        ("content-type", Bytes.ofText "application/x-x509-ca-cert"),
        ("content-disposition", Bytes.ofText "attachment; filename=\"har-proxy-ca.crt\"")]
      body := Bytes.ofText a.certificate }
  | none => .synthetic 404 (Bytes.ofText "TLS interception not enabled")

/-- `handle_request`: reacts to a message. `inside` is the authority of the tunnel that it comes out
of. -/
def serve (g : Gateway) (s : Surroundings) (c : Client) (inside : Option String)
    (r : Http.Request) : Gateway × Client × Reaction :=
  if r.method == "CONNECT" then
    if inside.isSome then
      (g, c, .answer (.synthetic 405 (Bytes.ofText "Nested CONNECT not supported")))
    else
      let (g, reaction) := g.tunnelTo s r
      (g, c, reaction)
  else if asksForCertificate inside r then (g, c, .answer g.certificateAnswer)
  else
    let (c, _) := c.countExchange
    match g.exchange s c inside r with
    | (g, some response) => (g, c, .answer response)
    | (g, none) => (g, c, .never)

/-- The leaf certificate for a tunnel that is decrypted. `fresh` is the number of a new one. -/
def leafFor (g : Gateway) (fresh : Authority.Leaf) (d : Destination) :
    Gateway × Option Authority.Leaf :=
  match g.authority.bind fun a => a.leafFor fresh d.name with
  | some (a, leaf) => ({ g with authority := some a }, some leaf)
  | none => (g, none)

end Wirelog.Gateway
