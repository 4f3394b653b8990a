import Wirelog.Handling.Interceptor
/-!
Interceptors made of simple actions, which are done one after another. An action sees what the ones
before it did, to the message and to the log alike.
-/
namespace Wirelog.Script

/-- A change of a header block. -/
inductive HeaderEdit where
  /-- Give a name one value. -/
  | set (name : String) (value : Bytes)
  /-- Add a value to a name. -/
  | append (name : String) (value : Bytes)
  /-- Take a name out. -/
  | remove (name : String)

/-- The block after a change. -/
def HeaderEdit.apply (h : Http.Headers) : HeaderEdit → Http.Headers
  | .set name value => h.insert name value
  | .append name value => h.append name value
  | .remove name => h.remove name

/-- An action on a request. -/
inductive RequestAction where
  | header (edit : HeaderEdit)
  | method (method : String)
  | uri (uri : Http.Uri)
  | body (octets : Bytes)
  /-- Do no further action if the first value of a name is this one. -/
  | stopIf (name : String) (value : Bytes)
  /-- Answer the request. -/
  | answer (response : Http.Response)
  /-- Give a name the present page of the log as its value. -/
  | pageHeader (name : String)
  | log (edit : LogEdit)

/-- An action on a response. -/
inductive ResponseAction where
  | header (edit : HeaderEdit)
  | status (code : Nat)
  | body (octets : Bytes)
  /-- Give a name the number of entries of the log as its value. -/
  | countHeader (name : String)
  | log (edit : LogEdit)

/-- What stands for a value of a log that is not there. -/
def noLog : String := "none"

/-- A message with the log as the actions so far have left them. -/
structure Work (α : Type) where
  /-- The message. -/
  message : α
  /-- The log. -/
  log : Option Recording.OpenLog
  /-- What was done to the log. -/
  edits : List LogEdit := []

/-- Does something to the log. The moment of a page is not known here and does not matter. -/
def Work.edit {α : Type} (w : Work α) (e : LogEdit) : Work α :=
  { w with log := w.log.map (·.edit Time.Instant.epoch e), edits := w.edits ++ [e] }

/-- The result of the actions. -/
def Work.result {α : Type} (w : Work α) : Intercepted α :=
  { message := w.message, edits := w.edits }

/-- Does actions on a request until one stops or answers. -/
def actOn : List RequestAction → Work Http.Request →
    Work Http.Request × Option Http.Response
  | [], w => (w, none)
  | a :: rest, w =>
    let r := w.message
    let go (r : Http.Request) := actOn rest { w with message := r }
    match a with
    | .header e => go { r with headers := e.apply r.headers }
    | .method method => go { r with method }
    | .uri uri => go { r with uri }
    | .body octets => go { r with body := octets }
    | .stopIf name value => if r.headers.get? name = some value then (w, none) else go r
    | .answer response => (w, some response)
    | .pageHeader name =>
      let page := (w.log.bind Recording.OpenLog.current).getD noLog
      go { r with headers := r.headers.insert name (Bytes.ofText page) }
    | .log e => actOn rest (w.edit e)

/-- Does one action on a response. -/
def ResponseAction.run (w : Work Http.Response) : ResponseAction → Work Http.Response
  | .header e => { w with message := { w.message with headers := e.apply w.message.headers } }
  | .status code => { w with message := { w.message with status := code } }
  | .body octets => { w with message := { w.message with body := octets } }
  | .countHeader name =>
    let count := match w.log with
      | some l => Text.natText l.entries.length
      | none => noLog
    { w with message :=
      { w.message with headers := w.message.headers.insert name (Bytes.ofText count) } }
  | .log e => w.edit e

/-- The interceptor of requests that does these actions. -/
def requestInterceptor (actions : List RequestAction) : RequestInterceptor := fun message log =>
  let (w, answer) := actOn actions { message, log }
  (w.result, answer)

/-- The interceptor of responses that does these actions. -/
def responseInterceptor (actions : List ResponseAction) : ResponseInterceptor := fun message log =>
  (actions.foldl ResponseAction.run { message, log }).result

end Wirelog.Script
