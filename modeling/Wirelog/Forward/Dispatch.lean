import Wirelog.Forward.Dial
import Wirelog.Forward.Options
import Wirelog.Forward.Target
import Wirelog.Handling.Basic
import Wirelog.Pacing.Limits
/-!
Sending a request on and collecting the response. The recording of the exchange goes along: what has
been recorded by the time of a failure stays.
-/
namespace Wirelog.Forward

/-- A request on its way. -/
structure Journey where
  /-- The time of the request. -/
  clock : Clock := {}
  /-- The addresses that are remembered. -/
  book : Resolution.Book := {}
  /-- The recorder and the handling. -/
  passage : Passage Http.Request
  /-- What was measured so far. -/
  timings : Recording.Dispatch := {}
  /-- The addresses that were tried. -/
  tried : List Net.Ip := []

/-- Steps of a journey, each of which may stop it. What they did stays done. -/
abbrev Send := ExceptT Stop (StateM Journey)

namespace Send

/-- Stops with a failure. -/
def fail {α : Type} (f : Failure) : Send α :=
  throw (.failed f)

/-- Goes on with a result, or stops with its failure. -/
def lift {α : Type} : Except Failure α → Send α
  | .ok a => pure a
  | .error f => fail f

/-- Waits for a reply: what came, and how long it took. -/
def wait {α : Type} (limit : Option Time.Span) (w : Wait) (r : Reply α) :
    Send (α × Time.Span) := do
  let j ← get
  let (clock, awaited) := j.clock.await limit w r
  set { j with clock }
  match awaited with
  | .came result => return (result, clock.elapsed - j.clock.elapsed)
  | .expired wait => fail (.timeout wait)
  | .never => throw .never

/-- Changes what was measured. -/
def measure (f : Recording.Dispatch → Recording.Dispatch) : Send Unit :=
  modify fun j => { j with timings := f j.timings }

/-- Lets an event happen to the recorded exchange. -/
def record (event : Recording.Event) : Send Unit :=
  modify fun j => { j with passage := j.passage.record event }

/-- Finds the addresses of a host. Only a lookup counts as time spent on it. -/
def resolve (net : Network) (host : String) (port : Nat) : Send Resolution.Resolved := do
  let j ← get
  match j.book.answer? j.clock.now host port with
  | some r => return r
  | none =>
    let (result, took) ← wait none .request (net.lookup host)
    let j ← get
    let (book, r) := j.book.accept j.clock.now host port result
    set { j with book }
    let r ← lift r
    measure fun t => { t with dns := some took }
    return r

/-- Connects to a host. -/
def connect (net : Network) (o : Options) (host : String) (port : Nat) : Send Wire := do
  let r ← resolve net host port
  let j ← get
  let call : Call := { host, port, rounds := rounds o.retries, limit := o.connectLimit }
  let (d, result) := call.dial net j.clock r.addresses
  set { j with clock := d.clock, tried := j.tried ++ d.tried }
  match result with
  | .ok ip =>
    measure fun t =>
      { t with connect := some (d.clock.elapsed - j.clock.elapsed), server := some ip }
    return { address := ip, port }
  | .error stop => throw stop

/-- Adds to the time of connecting. -/
def connectMore (span : Time.Span) : Send Unit :=
  measure fun t => { t with connect := t.connect.map (· + span) }

/-- `open_tunnel`: has another proxy open a tunnel. -/
def tunnel (net : Network) (o : Options) (w : Wire) (host : String) (port : Nat) : Send Wire := do
  match net.tunnel w (tunnelRequest host port) with
  | .error reason => fail (.tunnelRefused reason)
  | .ok reply =>
    let (transcript, took) ← wait o.socketLimit .tunnel reply
    lift (negotiate transcript).1
    connectMore took
    return { w with tunnel := some (host, port) }

/-- `Upstream::tls_handshake`: shakes hands with a server. -/
def secure (net : Network) (o : Options) (w : Wire) (host : String) : Send Wire := do
  let (result, took) ← wait o.connectLimit .tls (net.handshake w host o.trustAll)
  match result with
  | .error reason => fail (.handshake host reason)
  | .ok () =>
    measure fun t => { t with ssl := some took }
    connectMore took
    return { w with secured := some host }

end Send

/-- Where a request goes. -/
structure Route where
  /-- The host of the URL, which the certificate is checked against. -/
  host : String
  /-- The host to connect to. -/
  connectHost : String
  /-- The port. -/
  port : Nat
  /-- Whether the connection is encrypted. -/
  secure : Bool
deriving DecidableEq

/-- Where a request with a URL goes. -/
def Route.of (h : Handling) (u : Http.Uri) : Except Failure Route :=
  match u.host? with
  | none => .error (.protocol ("no host in '" ++ u.text ++ "'"))
  | some host =>
    let secure := u.scheme == some .https
    .ok {
      host
      connectHost := h.connectHost.getD host
      port := u.port?.getD (if secure then 443 else 80)
      secure }

/-- The target that a request is sent with. -/
def Route.target (r : Route) (o : Options) (u : Http.Uri) : Except Failure Http.Uri :=
  if o.relay.isSome && !r.secure then absoluteForm u r.connectHost r.port else originForm u

/-- A request in the form in which it is sent: with a target, under the common version, and with a
`host` header. -/
def outgoing (r : Http.Request) (target : Http.Uri) : Http.Request :=
  let headers :=
    if r.headers.contains "host" || r.uri.authority.isEmpty then r.headers
    else r.headers.insert "host" (Bytes.ofText r.uri.authority)
  { r with uri := target, version := .http11, headers }

namespace Send

/-- Makes the connection of a route, through another proxy if there is one. -/
def reach (net : Network) (o : Options) (r : Route) : Send Wire := do
  match o.relay with
  | some relay =>
    let w ← connect net o relay.host relay.port.toNat
    if r.secure then
      let w ← tunnel net o w r.connectHost r.port
      secure net o w r.host
    else return w
  | none =>
    let w ← connect net o r.connectHost r.port
    if r.secure then secure net o w r.host else return w

/-- `Upstream::exchange`: sends a request and collects the response. -/
def exchange (net : Network) (o : Options) (limits : Pacing.Limits) : Send Http.Response := do
  let p := (← get).passage
  let route ← lift (Route.of p.handling p.message.uri)
  let w ← reach net o route
  match net.greet w with
  | .error reason => fail (.protocol reason)
  | .ok () =>
    record (.dispatched p.message (← get).timings)
    let target ← lift (route.target o p.message.uri)
    let (head, took) ← wait o.socketLimit .headers (net.send w (outgoing p.message target))
    match head with
    | .error reason => fail (.protocol reason)
    | .ok head =>
      record (.responseStarted took)
      let _ ← wait none .request ⟨(), some (limits.latency?.getD 0)⟩
      let (body, took) ← wait o.socketLimit .body head.body
      match body with
      | .error reason => fail (.protocol reason)
      | .ok body =>
        record (.responseReceived took)
        return {
          status := head.status
          version := head.version
          headers := head.headers.remove "content-length"
          body := body.extract 0 (limits.delivered body.size) }

/-- Connects to a host for a tunnel of a client, through another proxy if there is one. -/
def passage (net : Network) (o : Options) (host : String) (port : Nat) : Send Wire := do
  match o.relay with
  | some relay =>
    let w ← connect net o relay.host relay.port.toNat
    tunnel net o w host port
  | none => connect net o host port

end Send

/-- `Upstream::dispatch`: sends a request on, starting at a moment. -/
def dispatch (net : Network) (o : Options) (limits : Pacing.Limits) (now : Time.Span)
    (book : Resolution.Book) (p : Passage Http.Request) : Except Stop Http.Response × Journey :=
  (Send.exchange net o limits).run.run
    { clock := { started := now, limit := o.requestLimit }, book, passage := p }

/-- `Upstream::connect_raw`: connects to a host for a tunnel of a client, starting at a moment. No
limit holds for all of it. -/
def connectFor (net : Network) (o : Options) (now : Time.Span) (book : Resolution.Book)
    (host : String) (port : Nat) : Except Stop Wire × Journey :=
  (Send.passage net o host port).run.run
    { clock := { started := now }
      book
      passage := { recorder := {}, handling := {}, message := { uri := {} } } }

end Wirelog.Forward
