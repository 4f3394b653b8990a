import Wirelog.Net.Ip
import Wirelog.Recording.Message
import Wirelog.Time.Span
/-!
What can happen to an exchange while it is recorded. The phase of an exchange decides which events
count: an event that comes out of order changes neither the phase nor the entry. A finished
exchange, complete or failed, takes no event at all.
-/
namespace Wirelog.Recording

/-- `ExchangeState`: how far an exchange has come. -/
inductive Phase where
  /-- The request was seen. -/
  | opened
  /-- It was sent on. -/
  | dispatched
  /-- The response has started. -/
  | responding
  /-- The final response is recorded. -/
  | complete
  /-- There will be no response. -/
  | failed
deriving DecidableEq, Inhabited

/-- `ExchangeState::is_terminal`: whether an exchange is finished. -/
def Phase.isFinal : Phase → Bool
  | complete | failed => true
  | _ => false

/-- `DispatchTimings`: what was measured while a request was sent on. -/
structure Dispatch where
  /-- Waiting for a connection. -/
  blocked : Option Time.Span := none
  /-- Looking up the host. -/
  dns : Option Time.Span := none
  /-- Connecting, the TLS handshake included. -/
  connect : Option Time.Span := none
  /-- The TLS handshake alone. -/
  ssl : Option Time.Span := none
  /-- Sending the request. -/
  send : Time.Span := 0
  /-- The address that was connected to. -/
  server : Option Net.Ip := none

/-- Something that happens to an exchange. -/
inductive Event where
  /-- The request went out in the form given here, which may differ from the one first seen. -/
  | dispatched (request : Http.Request) (timings : Dispatch)
  /-- The response started after a wait. -/
  | responseStarted (wait : Time.Span)
  /-- The response was received. -/
  | responseReceived (receive : Time.Span)
  /-- The final response is known. -/
  | completed (response : Http.Response)
  /-- The exchange broke off. -/
  | failed (reason : String)
  /-- A remark. -/
  | remarked (text : String)

/-- `ExchangeCapture::transition`: the phase after an event; `none` when the event comes out of
order. -/
def Phase.after? : Phase → Event → Option Phase
  | opened, .dispatched _ _ => some dispatched
  | dispatched, .responseStarted _ => some responding
  | responding, .responseReceived _ => some responding
  | opened, .completed _ | responding, .completed _ => some complete
  | opened, .failed _ | dispatched, .failed _ | responding, .failed _ => some failed
  | opened, .remarked _ => some opened
  | dispatched, .remarked _ => some dispatched
  | responding, .remarked _ => some responding
  | _, _ => none

/-- The time of a phase, or that it was not measured. -/
def measured (s : Option Time.Span) : Int64 :=
  match s with
  | some s => s.recorded
  | none => Archive.unmeasured

/-- What an event writes into an entry. -/
def Event.write (flags : Flags) : Event → Archive.Entry → Archive.Entry
  | .dispatched request t, e =>
    { e with
      request := requestRecord flags request
      timings :=
        { e.timings with
          blocked := measured t.blocked
          dns := measured t.dns
          connect := measured t.connect
          ssl := measured t.ssl
          send := t.send.recorded }
      serverAddress := t.server.map Net.Ip.text }
  | .responseStarted wait, e => { e with timings := { e.timings with wait := wait.recorded } }
  | .responseReceived receive, e =>
    { e with timings := { e.timings with receive := receive.recorded } }
  | .completed response, e => { e with response := responseRecord flags response }
  | .failed reason, e =>
    { e with response := { e.response with error := some reason }, comment := some reason }
  | .remarked text, e => { e with comment := some text }

/-- `ExchangeCapture::with_entry`: the entry after an event that counts. Its time becomes the sum of
its phases. Where these have no sum the call panics, and leaves the time as it was; what it has
written by then stays. -/
def Event.apply (flags : Flags) (event : Event) (e : Archive.Entry) : Archive.Entry :=
  let e := event.write flags e
  { e with time := e.timings.total?.getD e.time }

/-- Whether adding up the time panics after an event that counts. -/
def Event.overflows (flags : Flags) (event : Event) (e : Archive.Entry) : Bool :=
  (event.write flags e).timings.total?.isNone

/-- The reason recorded when an exchange is given up before it is finished. -/
def abandoned : String :=
  "exchange abandoned before completion"

end Wirelog.Recording
