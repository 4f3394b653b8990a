import Wirelog.Handling.Basic
/-!
Interceptors are arbitrary functions that see every message late on its way out, or early on its
way back. They also see the log that the exchange is recorded in, and may remark on it or start a
page, but they cannot touch its entries.
-/
namespace Wirelog

/-- What an interceptor may do to a log. -/
inductive LogEdit where
  /-- Set or clear its comment. -/
  | comment (text : Option String)
  /-- Start a page. -/
  | page (ref title : Option String)

/-- The log after an edit. -/
def Recording.OpenLog.edit (now : Time.Instant) (log : Recording.OpenLog) :
    LogEdit → Recording.OpenLog
  | .comment text => { log with comment := text }
  | .page ref title => (log.newPage now ref title).1

/-- A message as an interceptor leaves it. -/
structure Intercepted (α : Type) where
  /-- The message. -/
  message : α
  /-- What is done to the log. -/
  edits : List LogEdit := []

/-- Sees a request and may answer it. -/
abbrev RequestInterceptor :=
  Http.Request → Option Recording.OpenLog → Intercepted Http.Request × Option Http.Response

/-- Sees a response. -/
abbrev ResponseInterceptor :=
  Http.Response → Option Recording.OpenLog → Intercepted Http.Response

/-- `InterceptorRegistry`: the interceptors of a proxy in the order of their registration. -/
structure Interceptors where
  /-- Those for requests. -/
  requests : List RequestInterceptor := []
  /-- Those for responses. -/
  responses : List ResponseInterceptor := []

namespace Passage

/-- The message that an interceptor left takes the place of the old one, and its edits are made. -/
def accept {α : Type} (now : Time.Instant) (p : Passage α) (i : Intercepted α) : Passage α :=
  let recorder := match p.handling.place? with
    | some place => p.recorder.onLog place.log fun log => i.edits.foldl (·.edit now) log
    | none => p.recorder
  { p with recorder, message := i.message }

/-- Runs interceptors in order until one answers the request. -/
def interceptRequest (now : Time.Instant) :
    List RequestInterceptor → Passage Http.Request → Passage Http.Request × Option Http.Response
  | [], p => (p, none)
  | f :: rest, p =>
    match f p.message (p.handling.log? p.recorder) with
    | (i, some answer) => (p.accept now i, some answer)
    | (i, none) => interceptRequest now rest (p.accept now i)

/-- Runs all interceptors in order. -/
def interceptResponse (now : Time.Instant) (fs : List ResponseInterceptor)
    (p : Passage Http.Response) : Passage Http.Response :=
  fs.foldl (fun p f => p.accept now (f p.message (p.handling.log? p.recorder))) p

end Passage

/-- `Interceptors`: runs the interceptors. -/
def Stage.interceptors (i : Interceptors) : Stage where
  name := "interceptors"
  onRequest now p := p.interceptRequest now i.requests
  onResponse now p := p.interceptResponse now i.responses

end Wirelog
