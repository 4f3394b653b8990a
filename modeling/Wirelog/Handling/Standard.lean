import Wirelog.Handling.Address
import Wirelog.Handling.Enforcement
import Wirelog.Handling.Interceptor
/-!
The stages of a proxy. A request is recorded as soon as it has its full URL, so refused requests
are in the record as well; a response is recorded last, after every interceptor.
-/
namespace Wirelog
namespace Stage

/-- `HarCapture`: records exchanges: opens an entry for the request and completes it with the
response. -/
def recording : Stage where
  name := "har_capture"
  onRequest now p :=
    let (recorder, trace) := p.recorder.begin now p.message (some p.handling.connection)
    ({ p with recorder, handling := { p.handling with trace := some trace } }, none)
  onResponse _ p :=
    match p.handling.trace with
    | some t => if t.phase.isFinal then p else p.record (.completed p.message)
    | none => p

/-- `FilterChain::standard`: all stages in their order. -/
def standard (i : Interceptors) : List Stage :=
  [address, recording, enforcement, headers, credentials, interceptors i]

end Stage
end Wirelog
