import Wirelog.Bytes
/-!
Octets read as a stream of bits, lowest bit of each octet first. A position counts bits from the
start, so reading never moves backwards and the number of bits left bounds every loop.
-/
namespace Wirelog.Flate

/-- The bit at a position. -/
def bitAt (src : Bytes) (pos : Nat) : Option Nat :=
  match src[pos / 8]? with
  | some b => some ((b.toNat >>> (pos % 8)) % 2)
  | none => none

/-- A number of `count` bits at a position, lowest bit first. -/
def bitsAt (src : Bytes) (pos : Nat) : Nat → Option Nat
  | 0 => some 0
  | count + 1 =>
    match bitAt src pos with
    | some b =>
      match bitsAt src (pos + 1) count with
      | some more => some (b + 2 * more)
      | none => none
    | none => none

/-- The first octet boundary at or after a position. -/
def nextOctet (pos : Nat) : Nat :=
  (pos + 7) / 8

/-- A number of `count` octets at an octet offset, lowest octet first. -/
def littleEndian (src : Bytes) (at0 : Nat) : Nat → Option Nat
  | 0 => some 0
  | count + 1 =>
    match src[at0]? with
    | some b => (littleEndian src (at0 + 1) count).map fun more => b.toNat + 256 * more
    | none => none

end Wirelog.Flate
