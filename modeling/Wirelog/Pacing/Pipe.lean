import Wirelog.Pacing.Stream
/-!
Limited streams over a pipe in memory. Nobody else uses the line, so whenever a call waits for its
grant, the clock may jump to the moment at which the grant is due.
-/
namespace Wirelog.Pacing

/-- A stream with its line and its clock. -/
structure Flow where
  /-- The stream. -/
  stream : Stream := {}
  /-- The line that it uses. -/
  line : Line := {}
  /-- The time. -/
  now : Rat := 0
  /-- The number of calls before the limits are switched off, if they ever are. -/
  limitedCalls : Option Nat := none

namespace Flow

/-- The flow before its next call: the limits go when their calls are used up. -/
def next (f : Flow) : Flow :=
  match f.limitedCalls with
  | some 0 =>
    { f with
      line := { f.line with limits := { f.line.limits with enabled := false } }
      limitedCalls := none }
  | some (n + 1) => { f with limitedCalls := some n }
  | none => f

/-- Makes a call, and makes it again when its grant is due. -/
def call {α : Type} (f : Flow) (grant : Stream → Grant)
    (act : Stream → Line → Rat → Stream × Line × Outcome α) : Flow × Outcome α :=
  match act f.stream f.line f.now with
  | (stream, line, .pending) =>
    match (grant stream).due with
    | some due =>
      let (stream, line, outcome) := act stream line due
      ({ f with stream, line, now := due }, outcome)
    | none => ({ f with stream, line }, .pending)
  | (stream, line, outcome) => ({ f with stream, line }, outcome)

/-- Reads from a pipe that holds all of `data`, with room for `room` octets at a time, until a read
gives nothing: what each read gave. `reads` bounds their number. -/
def readAll (room : Nat) : Nat → Flow → List UInt8 → List (List UInt8)
  | 0, _, _ => []
  | reads + 1, f, data =>
    match f.next.call Stream.reading fun s l now =>
        s.read l now room fun free => .ready (data.take free) with
    | (f, .ready (x :: part)) =>
      (x :: part) :: readAll room reads f (data.drop (part.length + 1))
    | (_, .ready []) => [[]]
    | (_, .pending) | (_, .failed _) => []

/-- Writes to a pipe with `free` octets of room until all is written or the room is used up: how
much each write took. `writes` bounds their number. -/
def writeAll : Nat → Flow → Nat → List UInt8 → List Nat
  | 0, _, _, _ => []
  | writes + 1, f, free, data =>
    match f.next.call Stream.writing fun s l now =>
        s.write l now data fun offered => .ready (min offered.length free) with
    | (f, .ready n) =>
      if (data.drop n).isEmpty || free ≤ n then [n]
      else n :: writeAll writes f (free - n) (data.drop n)
    | (_, .pending) | (_, .failed _) => []

/-- Reads everything. Each read but the last gives something, which bounds their number. -/
def drain (f : Flow) (room : Nat) (data : List UInt8) : List (List UInt8) :=
  readAll room (data.length + 1) f data

/-- Writes as much as there is room for. Nothing at all is one empty write. -/
def fill (f : Flow) (free : Nat) (data : List UInt8) : List Nat :=
  if free = 0 ∧ ¬data.isEmpty then [] else writeAll (data.length + 1) f free data

end Flow
end Wirelog.Pacing
