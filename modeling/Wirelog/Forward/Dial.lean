import Wirelog.Forward.Network
/-!
Attempts to connect. The addresses of a host are tried in order, round after round, until one
attempt succeeds; after the last round the last failure counts.
-/
namespace Wirelog.Forward

/-- Why something stops before its end. -/
inductive Stop where
  /-- It failed. -/
  | failed (failure : Failure)
  /-- It waits for something that never comes. -/
  | never
deriving DecidableEq

/-- How an attempt ends. -/
inductive Attempt where
  /-- There is a connection. -/
  | connected
  /-- There is none, and the next address is tried. -/
  | missed (failure : Failure)
  /-- Nothing more is tried. -/
  | stopped (stop : Stop)
deriving DecidableEq

/-- What is wanted from a row of attempts. -/
structure Call where
  /-- The host. -/
  host : String
  /-- The port. -/
  port : Nat
  /-- The number of rounds. -/
  rounds : Nat
  /-- The limit for each attempt. -/
  limit : Option Time.Span

/-- The number of rounds: one more than the retries, as far as 32 bits allow. -/
def rounds (retries : UInt32) : Nat :=
  min (retries.toNat + 1) (UInt32.size - 1)

namespace Call

/-- The host and port as text. -/
def target (c : Call) : String :=
  c.host ++ ":" ++ Text.natText c.port

/-- The failure of a whole call for a reason. -/
def unreachable (c : Call) (reason : String) : Failure :=
  .unreachable c.target c.rounds reason

/-- One attempt: the clock after it, and how it ended. -/
def attempt (c : Call) (net : Network) (clock : Clock) (index : Nat) (ip : Net.Ip) :
    Clock × Attempt :=
  match clock.await c.limit .connect (net.connect ip c.port index) with
  | (clock, .came (.ok ())) => (clock, .connected)
  | (clock, .came (.error reason)) => (clock, .missed (c.unreachable reason))
  | (clock, .expired .request) => (clock, .stopped (.failed (.timeout .request)))
  | (clock, .expired wait) => (clock, .missed (.timeout wait))
  | (clock, .never) => (clock, .stopped .never)

end Call

/-- What the attempts have come to so far. -/
structure Dialing where
  /-- The clock. -/
  clock : Clock
  /-- The addresses tried, in order. -/
  tried : List Net.Ip := []
  /-- The failure of the last attempt. -/
  last : Failure

namespace Dialing

/-- One round; `none` when it ends without a connection. -/
def round (c : Call) (net : Network) : List Net.Ip → Dialing →
    Dialing × Option (Except Stop Net.Ip)
  | [], d => (d, none)
  | ip :: rest, d =>
    match c.attempt net d.clock d.tried.length ip with
    | (clock, .connected) =>
      ({ d with clock, tried := d.tried ++ [ip] }, some (.ok ip))
    | (clock, .missed failure) =>
      round c net rest { clock, tried := d.tried ++ [ip], last := failure }
    | (clock, .stopped stop) =>
      ({ d with clock, tried := d.tried ++ [ip] }, some (.error stop))

/-- So many rounds. -/
def run (c : Call) (net : Network) (addresses : List Net.Ip) : Nat → Dialing →
    Dialing × Except Stop Net.Ip
  | 0, d => (d, .error (.failed d.last))
  | n + 1, d =>
    match round c net addresses d with
    | (d, some result) => (d, result)
    | (d, none) => run c net addresses n d

end Dialing

/-- `Upstream::connect_tcp`: connects to one of several addresses. -/
def Call.dial (c : Call) (net : Network) (clock : Clock) (addresses : List Net.Ip) :
    Dialing × Except Stop Net.Ip :=
  Dialing.run c net addresses c.rounds { clock, last := c.unreachable "no addresses" }

end Wirelog.Forward
