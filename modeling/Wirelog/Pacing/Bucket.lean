/-!
Credit for octets at a rate. A bucket may go into debt: a reservation always succeeds, and whoever
made it waits until the debt is paid off. Time and credit are rational, so nothing is ever rounded.
-/
namespace Wirelog.Pacing

/-- `BURST`: the time for which credit is saved up, in seconds. -/
def burst : Rat := 1 / 10

/-- `TokenBucket`: a bucket. -/
structure Bucket where
  /-- Octets that may be sent at once; negative in debt. -/
  credit : Rat := 0
  /-- The moment of the last reservation. -/
  last : Rat := 0

namespace Bucket

/-- The credit at a moment. It grows from the last reservation on, and what goes beyond the burst
is lost. -/
def creditAt (b : Bucket) (now rate : Rat) : Rat :=
  let grown := b.credit + (now - b.last) * rate
  if grown ≤ rate * burst then grown else rate * burst

/-- `TokenBucket::reserve`: reserves octets: the bucket, and how long to wait before they may be
sent. -/
def reserve (b : Bucket) (now : Rat) (size rate : Nat) : Bucket × Rat :=
  let rate : Rat := (max rate 1 : Nat)
  let credit := b.creditAt now rate - size
  ({ credit, last := now }, if 0 ≤ credit then 0 else -credit / rate)

/-- `TokenBucket::refund`: gives octets back that were reserved but not sent. -/
def refund (b : Bucket) (size : Nat) : Bucket :=
  { b with credit := b.credit + size }

end Bucket
end Wirelog.Pacing
