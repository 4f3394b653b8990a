import Wirelog.Gateway.Answering
/-!
Requests for tunnels. A tunnel is decrypted if there is an authority and the host is not exempt. Any
other is held to the policy as a request for the root of its host would be, and connected before the
client gets its answer.
-/
namespace Wirelog.Gateway

/-- A host without brackets. -/
def bareHost (host : String) : String :=
  let s := host.toList.dropWhile (· == '[')
  String.ofList (s.reverse.dropWhile (· == ']')).reverse

/-- The target of a tunnel. -/
structure Destination where
  /-- The authority as written. -/
  authority : String
  /-- The host of the authority, brackets included. -/
  host : String
  /-- The port. -/
  port : Nat
deriving DecidableEq

namespace Destination

/-- The destination that an authority names. -/
def ofAuthority (authority : String) : Destination :=
  { authority
    host := String.ofList (Http.Uri.hostOf authority.toList)
    port := (Http.Uri.portOf authority.toList).getD 443 }

/-- The name of the host, without brackets. -/
def name (d : Destination) : String :=
  bareHost d.host

/-- The URL that the policy is asked about. -/
def url (d : Destination) : String :=
  "https://" ++ d.host ++ (if d.port = 443 then "" else ":" ++ Text.natText d.port) ++ "/"

/-- Whether and why a policy refuses the tunnel. -/
def block? (d : Destination) (p : Policy) : Option Block :=
  p.block? d.url

/-- The host to connect to. -/
def connectHost (d : Destination) (p : Policy) : String :=
  (p.remap? d.name).getD d.name

end Destination

/-- How a proxy reacts to a message. -/
inductive Reaction where
  /-- It answers. -/
  | answer (response : Http.Response)
  /-- It grants a tunnel, and decrypts it. -/
  | intercept (destination : Destination)
  /-- It grants a tunnel, and copies octets from and to a connection. -/
  | tunnel (wire : Forward.Wire)
  /-- It waits for ever. -/
  | never

/-- Whether tunnels to a destination are decrypted. -/
def intercepts (g : Gateway) (d : Destination) : Bool :=
  g.authority.isSome && !g.isExempt d.name

/-- `connect_passthrough`: connects the server side of a tunnel that is not decrypted. -/
def connectTunnel (g : Gateway) (s : Surroundings) (d : Destination) : Gateway × Reaction :=
  match Forward.connectFor s.network g.options s.now g.book (d.connectHost g.policy) d.port with
  | (.ok wire, j) => ({ g with book := j.book }, .tunnel wire)
  | (.error (.failed f), j) => ({ g with book := j.book }, .answer (failed f))
  | (.error .never, j) => ({ g with book := j.book }, .never)

/-- `handle_connect_request`: reacts to a request for a tunnel. -/
def tunnelTo (g : Gateway) (s : Surroundings) (r : Http.Request) : Gateway × Reaction :=
  if r.uri.authority.isEmpty then
    (g, .answer (.synthetic 400 (Bytes.ofText "CONNECT target must be host:port")))
  else
    let d := Destination.ofAuthority r.uri.authority
    if g.intercepts d then (g, .intercept d)
    else match d.block? g.policy with
      | some b => (g, .answer (.synthetic b.status .empty))
      | none => g.connectTunnel s d

end Wirelog.Gateway
