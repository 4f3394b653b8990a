import Wirelog.Forward.Relay
import Wirelog.Time.Span
/-!
Options of sending requests on: how often to try to connect, how long to wait, and through which
other proxy.
-/
namespace Wirelog.Forward

/-- `UpstreamSettings`: options. A missing limit of time means to wait for ever. -/
structure Options where
  /-- How often to try again after the first round of attempts to connect. -/
  retries : UInt32 := 0
  /-- The limit for a request as a whole. -/
  requestLimit : Option Time.Span := none
  /-- The limit for each wait for octets. -/
  socketLimit : Option Time.Span := some (Time.Span.ofSeconds 60)
  /-- The limit for each attempt to connect. -/
  connectLimit : Option Time.Span := some (Time.Span.ofSeconds 60)
  /-- The proxy to send requests through. -/
  relay : Option Relay := none
  /-- Take any certificate of a server. -/
  trustAll : Bool := false
deriving DecidableEq, Inhabited

namespace Options

/-- `millis_or_none`: a limit of so many milliseconds; zero is none. -/
def limit (ms : UInt64) : Option Time.Span :=
  if ms.toNat = 0 then none else some (Time.Span.ofMillis ms.toNat)

/-- Reads the address of a proxy, if there is one. -/
def relay? : Option String → Except Refusal (Option Relay)
  | some text => (Relay.parse text).map some
  | none => .ok none

/-- A change of options. -/
inductive Update where
  | retries (count : UInt32)
  | requestLimit (ms : UInt64)
  | socketLimit (ms : UInt64)
  | connectLimit (ms : UInt64)
  | relay (text : Option String)
  | trustAll (on : Bool)

/-- The options after a change. -/
def update (o : Options) : Update → Except Refusal Options
  | .retries count => .ok { o with retries := count }
  | .requestLimit ms => .ok { o with requestLimit := limit ms }
  | .socketLimit ms => .ok { o with socketLimit := limit ms }
  | .connectLimit ms => .ok { o with connectLimit := limit ms }
  | .relay text => do
    let relay ← relay? text
    return { o with relay }
  | .trustAll on => .ok { o with trustAll := on }

end Options
end Wirelog.Forward
