import Wirelog.Pacing.Stream
/-!
Streams that share a line. Polls of any number of streams, changes of the limits, and streams that
come and go follow one another in any order. Below each stream stands a machine that answers as it
likes, but fills no more than the room it is given and takes no more than it is offered. Beside a
run stands what it asks of the bucket of a direction, so that its credit can be accounted for.
-/
namespace Wirelog.Pacing

namespace Bucket

/-- A new bucket has no credit. -/
def new (now : Rat) : Bucket :=
  { last := now }

@[simp] theorem credit_new (now : Rat) : (new now).credit = 0 :=
  rfl

@[simp] theorem last_new (now : Rat) : (new now).last = now :=
  rfl

end Bucket

namespace Overlap

/-! ### Calls on a bucket -/

/-- A call on a bucket. -/
inductive Call where
  /-- Octets are reserved at a rate. -/
  | reserve (now : Rat) (size rate : Nat)
  /-- Octets are given back. -/
  | refund (size : Nat)
deriving DecidableEq

namespace Call

/-- The bucket after a call. -/
def apply (b : Bucket) : Call → Bucket
  | reserve now size rate => (b.reserve now size rate).1
  | refund size => b.refund size

/-- The octets that a call reserves; below zero, those that it gives back. -/
def net : Call → Int
  | reserve _ size _ => size
  | refund size => -size

end Call

/-- The bucket after calls in order. -/
def replay (b : Bucket) (calls : List Call) : Bucket :=
  calls.foldl Call.apply b

/-- The octets that calls reserve, less those that they give back. -/
def net : List Call → Int
  | [] => 0
  | call :: rest => call.net + net rest

/-! ### What a stream is asked and what it answers -/

/-- What is asked of a stream. -/
inductive Ask where
  /-- Octets for so much room. -/
  | read (room : Nat)
  /-- To take octets from the front of these. -/
  | write (data : List UInt8)
deriving DecidableEq

namespace Ask

/-- The way of the octets. -/
def direction : Ask → Direction
  | read _ => .down
  | write _ => .up

/-- How many octets may move. -/
def size : Ask → Nat
  | read room => room
  | write data => data.length

/-- The same for so many octets. -/
def narrowed : Ask → Nat → Ask
  | read _, n => read n
  | write data, n => write (data.take n)

end Ask

/-- What a stream answers. -/
inductive Answer where
  /-- The octets that are read. -/
  | read (outcome : Outcome (List UInt8))
  /-- How many octets are taken. -/
  | write (outcome : Outcome Nat)
deriving DecidableEq

namespace Answer

/-- How many octets an answer moves. -/
def moved : Answer → Nat
  | read (.ready part) => part.length
  | write (.ready n) => n
  | _ => 0

/-- Whether the poll has to be made again later. -/
def isPending : Answer → Bool
  | read .pending | write .pending => true
  | _ => false

end Answer

/-- A stream below, by its states. -/
structure Machine (σ : Type) where
  /-- Fills room with octets. -/
  read : σ → Nat → Outcome (List UInt8) × σ
  /-- Takes octets from the front of some. -/
  write : σ → List UInt8 → Outcome Nat × σ
  /-- No more is read than there is room for. -/
  read_fits : ∀ x room part, (read x room).1 = .ready part → part.length ≤ room
  /-- No more is taken than is offered. -/
  write_fits : ∀ x data n, (write x data).1 = .ready n → n ≤ data.length

namespace Machine

variable {σ : Type} (m : Machine σ)

/-- The answer to what is asked, and the state after it. -/
def serve (x : σ) : Ask → Answer × σ
  | .read room => (.read (m.read x room).1, (m.read x room).2)
  | .write data => (.write (m.write x data).1, (m.write x data).2)

/-- What is asked in a row, each with its answer. -/
def dialogue (x : σ) : List Ask → List (Ask × Answer)
  | [] => []
  | ask :: rest => (ask, (m.serve x ask).1) :: dialogue (m.serve x ask).2 rest

end Machine

end Overlap

/-! ### What a poll lets through and what it asks of its bucket -/

namespace Grant

open Overlap (Call)

variable (g : Grant) (l : Line) (d : Direction) (now : Rat) (want : Nat)

/-- How many octets a poll lets through; `none` while its grant is not due. A poll for nothing needs
no grant. -/
def window? : Option Nat :=
  if want = 0 then some 0
  else match (g.poll l d now want).2.2 with
    | .ready none => some want
    | .ready (some size) => some size
    | .pending | .failed _ => none

/-- The calls by which a poll comes to its window. -/
def callsBefore : List Call :=
  if want = 0 then []
  else match l.limits.rate? d with
    | none => [.refund g.size]
    | some rate => if g.size = 0 then [.reserve now (min want (chunk rate)) rate] else []

/-- The calls by which a poll settles, after so many octets were moved. Without a limit, nothing is
left to settle. -/
def callsAfter (moved : Nat) : List Call :=
  if want = 0 then []
  else match g.poll l d now want with
    | (g, _, .ready (some _)) => [.refund (g.size - moved)]
    | _ => []

/-- Of the octets that a poll moves, those that count against a limit. -/
def counted (moved : Nat) : Nat :=
  if want = 0 then 0
  else match (g.poll l d now want).2.2 with
    | .ready (some _) => moved
    | _ => 0

end Grant

namespace Stream

open Overlap

/-- The grant of a direction. -/
def grant (s : Stream) : Direction → Grant
  | .up => s.writing
  | .down => s.reading

variable (s : Stream) (l : Line) (now : Rat)

/-- What a poll asks of the stream below, if it comes to that. -/
def handed? (ask : Ask) : Option Ask :=
  ((s.grant ask.direction).window? l ask.direction now ask.size).map ask.narrowed

/-- What a poll asks of the bucket of a direction when it moves so many octets. -/
def calls (d : Direction) (ask : Ask) (moved : Nat) : List Call :=
  if ask.direction = d then
    (s.grant d).callsBefore l d now ask.size ++ (s.grant d).callsAfter l d now ask.size moved
  else []

/-- Of the octets that a poll moves, those that count against a limit of a direction. -/
def counted (d : Direction) (ask : Ask) (moved : Nat) : Nat :=
  if ask.direction = d then (s.grant d).counted l d now ask.size moved else 0

end Stream

namespace Overlap

/-! ### Any number of streams -/

/-- A stream on top of another. -/
structure Stack (σ : Type) where
  /-- The stream that is held to the limits. -/
  top : Stream := {}
  /-- The state of the one below. -/
  below : σ

/-- What becomes of one poll. -/
structure Contact where
  /-- What was asked. -/
  ask : Ask
  /-- What was asked of the stream below, if it came to that. -/
  handed : Option Ask
  /-- The answer. -/
  told : Answer

variable {σ : Type} (m : Machine σ)

/-- Polls a stream, which polls the one below when its grant is due. -/
def Stack.poll (x : Stack σ) (l : Line) (now : Rat) (ask : Ask) : Stack σ × Line × Contact :=
  let handed := x.top.handed? l now ask
  let below := match handed with
    | some ask => (m.serve x.below ask).2
    | none => x.below
  match ask with
  | .read room =>
    let (top, line, outcome) := x.top.read l now room fun room => (m.read x.below room).1
    ({ top, below }, line, { ask, handed, told := .read outcome })
  | .write data =>
    let (top, line, outcome) := x.top.write l now data fun data => (m.write x.below data).1
    ({ top, below }, line, { ask, handed, told := .write outcome })

/-- All streams of a proxy. -/
structure Crowd (σ : Type) where
  /-- The line that they share. -/
  line : Line
  /-- The streams in the order of their coming, `none` for those that went. -/
  streams : List (Option (Stack σ)) := []

/-- What happens next. -/
inductive Event (σ : Type) where
  /-- A stream comes, on top of one in this state. -/
  | come (below : σ)
  /-- A stream is dropped. -/
  | drop (k : Nat)
  /-- The limits change. -/
  | limit (change : Limits.Update)
  /-- A stream is polled. -/
  | poll (k : Nat) (now : Rat) (ask : Ask)

namespace Crowd

/-- The stream of a number, while it is there. -/
def live? (c : Crowd σ) (k : Nat) : Option (Stack σ) :=
  c.streams[k]?.join

/-- The crowd after an event. A poll of a stream that is not there does nothing. -/
def after (c : Crowd σ) : Event σ → Crowd σ
  | .come below => { c with streams := c.streams ++ [some { below }] }
  | .drop k => { c with streams := c.streams.set k none }
  | .limit change =>
    match c.line.limits.update change with
    | .ok limits => { c with line := { c.line with limits } }
    | .error _ => c
  | .poll k now ask =>
    match c.live? k with
    | some x =>
      let (x, line, _) := x.poll m c.line now ask
      { line, streams := c.streams.set k (some x) }
    | none => c

/-- The crowd after events in order. -/
def run (c : Crowd σ) (events : List (Event σ)) : Crowd σ :=
  events.foldl (after m) c

/-- What becomes of an event that polls this stream. -/
def contact? (c : Crowd σ) (k : Nat) : Event σ → Option Contact
  | .poll j now ask =>
    if j = k then (c.live? k).map fun x => (x.poll m c.line now ask).2.2 else none
  | _ => none

/-- What becomes of the polls of a stream during a run. -/
def contacts (c : Crowd σ) (k : Nat) : List (Event σ) → List Contact
  | [] => []
  | e :: rest => (c.contact? m k e).toList ++ contacts (c.after m e) k rest

/-- What an event asks of the bucket of a direction. -/
def callsOf (c : Crowd σ) (d : Direction) : Event σ → List Call
  | .poll k now ask =>
    match c.live? k with
    | some x => x.top.calls c.line now d ask (x.poll m c.line now ask).2.2.told.moved
    | none => []
  | _ => []

/-- What a run asks of the bucket of a direction. -/
def calls (c : Crowd σ) (d : Direction) : List (Event σ) → List Call
  | [] => []
  | e :: rest => c.callsOf m d e ++ calls (c.after m e) d rest

/-- The octets that an event moves under a limit. -/
def movedBy (c : Crowd σ) (d : Direction) : Event σ → Nat
  | .poll k now ask =>
    match c.live? k with
    | some x => x.top.counted c.line now d ask (x.poll m c.line now ask).2.2.told.moved
    | none => 0
  | _ => 0

/-- The octets that a run moves under a limit. -/
def moved (c : Crowd σ) (d : Direction) : List (Event σ) → Nat
  | [] => 0
  | e :: rest => c.movedBy m d e + moved (c.after m e) d rest

/-- The octets granted to a stream and not settled; none, if it is not there. -/
def granted (d : Direction) : Option (Stack σ) → Nat
  | some x => (x.top.grant d).size
  | none => 0

/-- The octets granted to streams and not settled. -/
def grantedTo (d : Direction) : List (Option (Stack σ)) → Nat
  | [] => 0
  | x :: rest => granted d x + grantedTo d rest

/-- The octets granted to all streams that are there. -/
def held (c : Crowd σ) (d : Direction) : Nat :=
  grantedTo d c.streams

/-- The octets granted to a stream that an event drops. -/
def lostBy (c : Crowd σ) (d : Direction) : Event σ → Nat
  | .drop k => granted d (c.live? k)
  | _ => 0

/-- The octets granted to streams at the moments at which they are dropped. -/
def lost (c : Crowd σ) (d : Direction) : List (Event σ) → Nat
  | [] => 0
  | e :: rest => c.lostBy d e + lost (c.after m e) d rest

end Crowd
end Overlap
end Wirelog.Pacing
