import Wirelog.Gateway.Tunnel
import Wirelog.Policy.Update
/-!
Requests while the policy changes. A request is served in steps, and between any two of them calls
may change the policy. A request to pass on asks for the policy once, when its handling begins; one
for a tunnel asks when it is checked, and again when it is connected.
-/
namespace Wirelog.Gateway.Overlap

/-- What happens next. -/
inductive Event where
  /-- A call changes the policy. -/
  | change (update : Policy.Update)
  /-- The request goes on by one step. -/
  | advance

/-- A request with the policy in force. -/
structure Scene (α : Type) where
  /-- The policy in force. -/
  policy : Policy
  /-- How far the request has come. -/
  progress : α

/-- The scene after an event, for requests that go on in this way. -/
def Scene.after {α : Type} (advance : Policy → α → α) (s : Scene α) : Event → Scene α
  | .change update => { s with policy := s.policy.tryUpdate update }
  | .advance => { s with progress := advance s.policy s.progress }

/-- The scene after events in order. -/
def Scene.run {α : Type} (advance : Policy → α → α) (s : Scene α) (events : List Event) : Scene α :=
  events.foldl (Scene.after advance) s

/-- The policies that are in force at some time, the first one included. -/
def policies (first : Policy) : List Event → List Policy
  | [] => [first]
  | .change update :: rest => first :: policies (first.tryUpdate update) rest
  | .advance :: rest => policies first rest

/-- How far a request to pass on has come. -/
inductive ExchangeProgress where
  /-- It has arrived. -/
  | arrived
  /-- It is before the first of these stages. -/
  | passing (rest : List Stage) (p : Passage Http.Request)
  /-- It has left the stages, with an answer or without. -/
  | passed (p : Passage Http.Request) (answer : Option Http.Response)

/-- `handle_http_logic`: a step of a request to pass on: its handling begins, or it goes through a
stage. -/
def advanceExchange (g : Gateway) (s : Surroundings) (c : Client) (inside : Option String)
    (r : Http.Request) (policy : Policy) : ExchangeProgress → ExchangeProgress
  | .arrived =>
    .passing (Stage.standard g.interceptors) ({ g with policy }.arrival c inside r)
  | .passing [] p => .passed p none
  | .passing (stage :: rest) p =>
    match stage.onRequest s.moment p with
    | (p, some answer) => .passed p (some answer)
    | (p, none) => .passing rest p
  | .passed p answer => .passed p answer

/-- How far a request for a tunnel has come. -/
inductive TunnelProgress where
  /-- It has arrived. -/
  | arrived
  /-- It is refused. -/
  | refused (block : Block)
  /-- It was checked. -/
  | admitted
  /-- It is connected to a host. -/
  | connected (host : String)
deriving DecidableEq

/-- `handle_connect_request`: a step of a request for a tunnel that is not decrypted: it is checked,
or connected. -/
def advanceTunnel (d : Destination) (policy : Policy) : TunnelProgress → TunnelProgress
  | .arrived =>
    match d.block? policy with
    | some b => .refused b
    | none => .admitted
  | .admitted => .connected (d.connectHost policy)
  | .refused b => .refused b
  | .connected host => .connected host

end Wirelog.Gateway.Overlap
