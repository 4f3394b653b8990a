import Wirelog.Pacing.Bucket
import Wirelog.Pacing.Limits
/-!
Streams whose octets are held to the limits of the traffic. All streams of a proxy share two
buckets, one for each direction. A stream asks its bucket for a grant before it touches the stream
below, and gives back what it did not use. The stream below is given as its answer to one call, so
any behaviour of it can be put in.
-/
namespace Wirelog.Pacing

/-- `Shaper`: what all streams of a proxy share. -/
structure Line where
  /-- The limits in force. -/
  limits : Limits := {}
  /-- Credit to servers. -/
  up : Bucket := {}
  /-- Credit from servers. -/
  down : Bucket := {}

namespace Line

/-- The bucket of a direction. -/
def bucket (l : Line) : Direction → Bucket
  | .up => l.up
  | .down => l.down

/-- Another bucket for a direction. -/
def withBucket (l : Line) (d : Direction) (b : Bucket) : Line :=
  match d with
  | .up => { l with up := b }
  | .down => { l with down := b }

/-- Gives octets back. -/
def refund (l : Line) (d : Direction) (size : Nat) : Line :=
  l.withBucket d ((l.bucket d).refund size)

end Line

/-- The least and the greatest number of octets that are granted at once. -/
def leastChunk : Nat := 256

@[inherit_doc leastChunk]
def greatestChunk : Nat := 16384

/-- `chunk_for`: how many octets are granted at once at a rate: what a twentieth of a second allows,
within bounds. -/
def chunk (rate : Nat) : Nat :=
  max leastChunk (min (rate / 20) greatestChunk)

/-- `Pacing`: the grant of a stream in one direction. -/
structure Grant where
  /-- Octets reserved and not settled yet. -/
  size : Nat := 0
  /-- The moment from which they may be used, if that is not yet past. -/
  due : Option Rat := none

/-- What a call comes to. -/
inductive Outcome (α : Type) where
  /-- It is done. -/
  | ready (result : α)
  /-- It has to be made again later. -/
  | pending
  /-- It failed. -/
  | failed (error : String)
deriving DecidableEq

/-- Asks for a grant of up to `want` octets. A grant is kept until it is settled, so asking again
does not reserve again. -/
def Grant.reserve (g : Grant) (l : Line) (d : Direction) (now : Rat) (rate want : Nat) :
    Grant × Line :=
  if g.size = 0 then
    let size := min want (chunk rate)
    let (bucket, wait) := (l.bucket d).reserve now size rate
    ({ size, due := if wait = 0 then none else some (now + wait) }, l.withBucket d bucket)
  else (g, l)

/-- `Pacing::poll_grant`: how many octets may be moved now: `none` without a limit, pending before
the grant is due. A grant that is held while the limit goes away is given back. -/
def Grant.poll (g : Grant) (l : Line) (d : Direction) (now : Rat) (want : Nat) :
    Grant × Line × Outcome (Option Nat) :=
  match l.limits.rate? d with
  | none => ({}, l.refund d g.size, .ready none)
  | some rate =>
    let (g, l) := g.reserve l d now rate want
    match g.due with
    | some due =>
      if now < due then (g, l, .pending)
      else ({ g with due := none }, l, .ready (some (min g.size want)))
    | none => (g, l, .ready (some (min g.size want)))

/-- `Pacing::settle`: settles a grant of which so much was used. -/
def Grant.settle (g : Grant) (l : Line) (d : Direction) (used : Nat) : Grant × Line :=
  ({ g with size := 0 }, l.refund d (g.size - used))

/-- `ShapedStream`: a stream that is held to the limits. -/
structure Stream where
  /-- The grant for reading. -/
  reading : Grant := {}
  /-- The grant for writing. -/
  writing : Grant := {}

namespace Stream

/-- Settles a grant after a call of the stream below that moved so many octets. -/
def settleAfter {α : Type} (g : Grant) (l : Line) (d : Direction) (size : α → Nat) :
    Outcome α → Grant × Line
  | .ready a => g.settle l d (size a)
  | .pending | .failed _ => g.settle l d 0

/-- `ShapedStream::poll_read`: reads up to `want` octets. `below` answers for the stream below,
given the room that it may fill. -/
def read (s : Stream) (l : Line) (now : Rat) (want : Nat)
    (below : Nat → Outcome (List UInt8)) : Stream × Line × Outcome (List UInt8) :=
  if want = 0 then (s, l, below 0)
  else match s.reading.poll l .down now want with
    | (g, l, .ready none) => ({ s with reading := g }, l, below want)
    | (g, l, .ready (some size)) =>
      let outcome := below size
      let (g, l) := settleAfter g l .down List.length outcome
      ({ s with reading := g }, l, outcome)
    | (g, l, .pending) => ({ s with reading := g }, l, .pending)
    | (g, l, .failed e) => ({ s with reading := g }, l, .failed e)

/-- `ShapedStream::poll_write`: writes octets from the front of `data`. `below` answers for the
stream below, given the octets that it is offered, with the number that it took. -/
def write (s : Stream) (l : Line) (now : Rat) (data : List UInt8)
    (below : List UInt8 → Outcome Nat) : Stream × Line × Outcome Nat :=
  if data.isEmpty then (s, l, below [])
  else match s.writing.poll l .up now data.length with
    | (g, l, .ready none) => ({ s with writing := g }, l, below data)
    | (g, l, .ready (some size)) =>
      let outcome := below (data.take size)
      let (g, l) := settleAfter g l .up id outcome
      ({ s with writing := g }, l, outcome)
    | (g, l, .pending) => ({ s with writing := g }, l, .pending)
    | (g, l, .failed e) => ({ s with writing := g }, l, .failed e)

end Stream
end Wirelog.Pacing
