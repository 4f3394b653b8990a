import Wirelog.Client.Basic
import Wirelog.Forward.Dispatch
import Wirelog.Gateway.Basic
import Wirelog.Handling.Standard
import Wirelog.Http.HopByHop
/-!
Serving a request. It goes through the stages, on to the server unless a stage answers it, and the
response comes back through the stages. Headers that concern one connection only are taken out
before the first stage and after the last.
-/
namespace Wirelog.Gateway

/-- What surrounds a request. -/
structure Surroundings where
  /-- The network. -/
  network : Forward.Network
  /-- The moment, as archives write it. -/
  moment : Time.Instant
  /-- The time, as limits count it. -/
  now : Time.Span

/-- The response to a request that could not be sent on. -/
def failed (f : Forward.Failure) : Http.Response :=
  .synthetic f.status (Bytes.ofText f.message)

/-- A message without the headers that concern one connection only. -/
def trimmedRequest (r : Http.Request) : Http.Request :=
  { r with headers := r.headers.forwarded }

@[inherit_doc trimmedRequest]
def trimmedResponse (r : Http.Response) : Http.Response :=
  { r with headers := r.headers.forwarded }

/-- The handling of a request of a client. Inside a tunnel it is encrypted, and the authority of the
tunnel is known. -/
def handlingFor (g : Gateway) (c : Client) (inside : Option String) : Handling :=
  { secure := inside.isSome, tunnel := inside, policy := g.policy, connection := c.id }

/-- A request of a client as it comes to the stages. -/
def arrival (g : Gateway) (c : Client) (inside : Option String) (r : Http.Request) :
    Passage Http.Request :=
  { recorder := g.recorder, handling := g.handlingFor c inside, message := trimmedRequest r }

/-- Sends a request on: the remembered addresses, and the passage with the response. A failure is
recorded and made a response; where there never is an end, the passage waits as it stands. -/
def sendOn (g : Gateway) (s : Surroundings) (p : Passage Http.Request) :
    Resolution.Book × Except (Passage Http.Request) (Passage Http.Response) :=
  match Forward.dispatch s.network g.options g.limits s.now g.book p with
  | (.ok response, j) => (j.book, .ok (j.passage.replace response))
  | (.error (.failed f), j) =>
    (j.book, .ok ((j.passage.record (.failed f.message)).replace (failed f)))
  | (.error .never, j) => (j.book, .error j.passage)

/-- `handle_http_logic`: takes a request through the stages, on to the server unless a stage answers
it, and the response back: the remembered addresses, and the passage at its end. -/
def handle (g : Gateway) (s : Surroundings) (c : Client) (inside : Option String)
    (r : Http.Request) : Resolution.Book × Except (Passage Http.Request) (Passage Http.Response) :=
  let stages := Stage.standard g.interceptors
  match Stage.passRequest s.moment stages (g.arrival c inside r) with
  | (p, some answer) => (g.book, .ok (Stage.passResponse s.moment stages (p.replace answer)))
  | (p, none) =>
    let (book, back) := g.sendOn s p
    (book, back.map (Stage.passResponse s.moment stages))

/-- Answers a request, and records the exchange: the proxy after it, with the response that the
client gets. -/
def exchange (g : Gateway) (s : Surroundings) (c : Client) (inside : Option String)
    (r : Http.Request) : Gateway × Option Http.Response :=
  match g.handle s c inside r with
  | (book, .ok q) => ({ g with recorder := q.close, book }, some (trimmedResponse q.message))
  | (book, .error p) => ({ g with recorder := p.recorder, book }, none)

end Wirelog.Gateway
