import Wirelog.Pattern.Table.CaseClass
import Wirelog.Text.Ranges
/-!
Classes of characters as patterns write them: ranges and tables, joined by the operations on sets.
A class is kept as it was built; whether a character belongs to it is decided by following the
operations.
-/
namespace Wirelog.Pattern

/-- The classes of characters that are equal when case does not count. -/
def caseClasses : List (List Char) :=
  Table.caseClasses.flatMap fun row => Text.splitOn ' ' row.toList

/-- The characters equal to one when case does not count, that one included. -/
def caseVariants (c : Char) : List Char :=
  match caseClasses.find? (·.contains c) with
  | some cs => cs
  | none => [c]

/-- A class of characters. -/
inductive CharClass where
  /-- No character. -/
  | none
  /-- Code points from one to another, both included. -/
  | range (low high : Nat)
  /-- The ranges of a table. -/
  | table (ranges : Array (Nat × Nat))
  | union (a b : CharClass)
  | inter (a b : CharClass)
  | diff (a b : CharClass)
  | symmDiff (a b : CharClass)
  | compl (a : CharClass)
  /-- The characters equal to one of a class when case does not count. -/
  | caseless (a : CharClass)
  /-- The same for letters of ASCII only. -/
  | asciiCaseless (a : CharClass)
deriving Inhabited

namespace CharClass

/-- Whether a character belongs to a class. -/
def mem : CharClass → Char → Bool
  | none, _ => false
  | range low high, c => low ≤ c.toNat && c.toNat ≤ high
  | table ranges, c => Text.inRanges ranges c
  | union a b, c => a.mem c || b.mem c
  | inter a b, c => a.mem c && b.mem c
  | diff a b, c => a.mem c && !b.mem c
  | symmDiff a b, c => a.mem c != b.mem c
  | compl a, c => !a.mem c
  | caseless a, c => (caseVariants c).any fun d => a.mem d
  | asciiCaseless a, c => a.mem c || a.mem c.toLower || a.mem c.toUpper

/-- One character. -/
def single (c : Char) : CharClass :=
  range c.toNat c.toNat

/-- Some characters. -/
def ofList (cs : List Char) : CharClass :=
  cs.foldr (fun c rest => union (single c) rest) none

/-- The characters between pairs of ASCII characters. -/
def ofRanges (l : List (Char × Char)) : CharClass :=
  l.foldr (fun r rest => union (range r.1.toNat r.2.toNat) rest) none

/-- Roughly how many ranges a class has. -/
def rangeCount : CharClass → Nat
  | none => 0
  | range _ _ => 1
  | table ranges => ranges.size
  | union a b | inter a b | diff a b | symmDiff a b => a.rangeCount + b.rangeCount
  | compl a => a.rangeCount + 1
  | caseless a | asciiCaseless a => 2 * a.rangeCount

end CharClass
end Wirelog.Pattern
