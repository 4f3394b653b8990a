import Wirelog.Text.Ascii
import Wirelog.Text.Split
/-!
Ranges of characters, written as rows of hexadecimal code points.
-/
namespace Wirelog.Text

/-- The ranges of some rows such as `41-5A AA`. -/
def parseRanges (rows : List String) : Array (Nat × Nat) :=
  (rows.flatMap fun row => (splitOn ' ' row.toList).filterMap parseRange).toArray
where
  /-- One range or single code point. -/
  parseRange (s : List Char) : Option (Nat × Nat) :=
    let point (s : List Char) : Option Nat :=
      if s.isEmpty then none else numeral 16 hexValue s
    match cutFirst '-' s with
    | some (a, b) => do return (← point a, ← point b)
    | none => (point s).map fun n => (n, n)

/-- Whether a character is in one of some ranges. -/
def inRanges (ranges : Array (Nat × Nat)) (c : Char) : Bool :=
  ranges.any fun r => r.1 ≤ c.toNat && c.toNat ≤ r.2

end Wirelog.Text
