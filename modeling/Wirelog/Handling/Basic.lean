import Wirelog.Policy.Basic
import Wirelog.Recording.Recorder
/-!
The handling of one request, from its arrival to its answer, as a line of stages. Each stage sees
the request on its way to the server, and the response on its way back in the opposite order. A
stage may answer a request itself; the stages after it then do not see the request, but all of them
see the answer.
-/
namespace Wirelog

/-- `ExchangeContext`: what is known about a request while it is handled. It belongs to this request
alone. -/
structure Handling where
  /-- The request came out of a decrypted tunnel. -/
  secure : Bool := false
  /-- The authority that the tunnel was opened for. -/
  tunnel : Option String := none
  /-- The policy in force when the handling began. -/
  policy : Policy := {}
  /-- The label of the client's connection. -/
  connection : String := ""
  /-- The recording of the exchange, once it has begun. -/
  trace : Option Recording.Trace := none
  /-- The host to connect to in place of the one in the URL. -/
  connectHost : Option String := none
  /-- Why the request was refused. -/
  block : Option Block := none

namespace Handling

/-- The scheme that a URL of the request has. -/
def scheme (h : Handling) : Http.Scheme :=
  if h.secure then .https else .http

/-- The place of the entry that the exchange is recorded in. -/
def place? (h : Handling) : Option Recording.Place :=
  h.trace.bind Recording.Trace.place

/-- The log that the exchange is recorded in. -/
def log? (h : Handling) (r : Recording.Recorder) : Option Recording.OpenLog :=
  h.place?.bind fun place => r.log? place.log

end Handling

/-- A message on its way through the stages, with everything that stages may change. -/
structure Passage (α : Type) where
  /-- The recorder of the proxy. -/
  recorder : Recording.Recorder
  /-- The handling of the request. -/
  handling : Handling
  /-- The message itself. -/
  message : α

namespace Passage

/-- Another message in the place of this one. -/
def replace {α β : Type} (p : Passage α) (message : β) : Passage β :=
  { recorder := p.recorder, handling := p.handling, message }

/-- Lets an event happen to the recorded exchange. Without a recording nothing happens. -/
def record {α : Type} (p : Passage α) (event : Recording.Event) : Passage α :=
  match p.handling.trace with
  | some t =>
    let (recorder, t) := p.recorder.record t event
    { p with recorder, handling := { p.handling with trace := some t } }
  | none => p

/-- Lets go of the recorded exchange, which fails unless it is finished: the recorder after it. -/
def close {α : Type} (p : Passage α) : Recording.Recorder :=
  match p.handling.trace with
  | some t => p.recorder.abandon t
  | none => p.recorder

end Passage

/-- `HttpFilter`: a stage of the handling. Unless it says otherwise it lets everything pass. -/
structure Stage where
  /-- The name in reports. -/
  name : String
  /-- What it does to a request; a response ends the way of the request. -/
  onRequest : Time.Instant → Passage Http.Request → Passage Http.Request × Option Http.Response :=
    fun _ p => (p, none)
  /-- What it does to a response. -/
  onResponse : Time.Instant → Passage Http.Response → Passage Http.Response := fun _ p => p

namespace Stage

/-- `FilterChain::run_request`: a request goes through stages in order until one answers it. -/
def passRequest (now : Time.Instant) :
    List Stage → Passage Http.Request → Passage Http.Request × Option Http.Response
  | [], p => (p, none)
  | s :: rest, p =>
    match s.onRequest now p with
    | (p, some answer) => (p, some answer)
    | (p, none) => passRequest now rest p

/-- `FilterChain::run_response`: a response goes through all stages from the last to the first. -/
def passResponse (now : Time.Instant) (stages : List Stage) (p : Passage Http.Response) :
    Passage Http.Response :=
  stages.foldr (fun s p => s.onResponse now p) p

end Stage
end Wirelog
