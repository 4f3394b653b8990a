import Wirelog.Pattern.Property
/-!
Patterns as trees. What a pattern matches is said by `Matches`, a relation between two places of a
text: a place is the number of characters before it. Priorities among several matches, and the
groups that captures are taken from, belong to searching and not to this relation.
-/
namespace Wirelog.Pattern

/-- Conditions on a place of a text. -/
inductive Look where
  /-- The start of the text. -/
  | textStart
  /-- The end of the text. -/
  | textEnd
  /-- The start of a line. -/
  | lineStart
  /-- The end of a line. -/
  | lineEnd
  /-- The start of a line, where carriage returns also end lines. -/
  | crlfStart
  /-- The end of a line, where carriage returns also end lines. -/
  | crlfEnd
  /-- Exactly one neighbour is a word character. -/
  | wordEdge (word : CharClass)
  /-- Both neighbours are word characters, or none is. -/
  | noWordEdge (word : CharClass)
  /-- A word starts. -/
  | wordStart (word : CharClass)
  /-- A word ends. -/
  | wordEnd (word : CharClass)
  /-- The neighbour before is no word character. -/
  | wordStartHalf (word : CharClass)
  /-- The neighbour after is no word character. -/
  | wordEndHalf (word : CharClass)

/-- The characters of a text by their places. -/
abbrev Chars := Array Char

/-- Whether the character before a place has a property; there is none at the start. -/
def before (t : Chars) (i : Nat) (p : Char → Bool) : Bool :=
  match i with
  | 0 => false
  | i + 1 => (t[i]?).any p

/-- Whether the character after a place has a property; there is none at the end. -/
def after (t : Chars) (i : Nat) (p : Char → Bool) : Bool :=
  (t[i]?).any p

/-- Whether a condition holds at a place. -/
def Look.holds (t : Chars) (i : Nat) : Look → Bool
  | textStart => i == 0
  | textEnd => i == t.size
  | lineStart => i == 0 || before t i (· == '\n')
  | lineEnd => i == t.size || after t i (· == '\n')
  | crlfStart =>
    i == 0 || before t i (· == '\n') || (before t i (· == '\r') && !after t i (· == '\n'))
  | crlfEnd =>
    i == t.size || after t i (· == '\r') || (after t i (· == '\n') && !before t i (· == '\r'))
  | wordEdge w => before t i w.mem != after t i w.mem
  | noWordEdge w => before t i w.mem == after t i w.mem
  | wordStart w => !before t i w.mem && after t i w.mem
  | wordEnd w => before t i w.mem && !after t i w.mem
  | wordStartHalf w => !before t i w.mem
  | wordEndHalf w => !after t i w.mem

/-- A pattern. -/
inductive Node where
  /-- Nothing. -/
  | empty
  /-- One character of a class. -/
  | one (cls : CharClass)
  /-- No character, under a condition. -/
  | look (l : Look)
  /-- One pattern after another. -/
  | seq (a b : Node)
  /-- One of two patterns, the first one preferred. -/
  | alt (a b : Node)
  /-- A pattern several times over, as often as possible or as seldom as possible. -/
  | times (low : Nat) (high : Option Nat) (greedy : Bool) (a : Node)
  /-- A pattern whose match is captured under a number. -/
  | group (number : Nat) (a : Node)
deriving Inhabited

/-- The places at which a pattern that starts at one place of a text may end. -/
inductive Matches (t : Chars) : Node → Nat → Nat → Prop where
  | empty (i : Nat) (inside : i ≤ t.size) : Matches t .empty i i
  | one {cls : CharClass} {i : Nat} {c : Char} (there : t[i]? = some c) (mem : cls.mem c = true) :
    Matches t (.one cls) i (i + 1)
  | look {l : Look} {i : Nat} (inside : i ≤ t.size) (holds : l.holds t i = true) :
    Matches t (.look l) i i
  | seq {a b : Node} {i j k : Nat} (first : Matches t a i j) (second : Matches t b j k) :
    Matches t (.seq a b) i k
  | altLeft {a b : Node} {i j : Nat} (left : Matches t a i j) : Matches t (.alt a b) i j
  | altRight {a b : Node} {i j : Nat} (right : Matches t b i j) : Matches t (.alt a b) i j
  | done {high : Option Nat} {greedy : Bool} {a : Node} (i : Nat) (inside : i ≤ t.size) :
    Matches t (.times 0 high greedy a) i i
  | need {low : Nat} {high : Option Nat} {greedy : Bool} {a : Node} {i j k : Nat}
    (allowed : high ≠ some 0) (once : Matches t a i j)
    (more : Matches t (.times low (high.map (· - 1)) greedy a) j k) :
    Matches t (.times (low + 1) high greedy a) i k
  | more {high : Option Nat} {greedy : Bool} {a : Node} {i j k : Nat}
    (allowed : high ≠ some 0) (once : Matches t a i j)
    (more : Matches t (.times 0 (high.map (· - 1)) greedy a) j k) :
    Matches t (.times 0 high greedy a) i k
  | group {number : Nat} {a : Node} {i j : Nat} (inner : Matches t a i j) :
    Matches t (.group number a) i j

namespace Node

/-- Whether a pattern never takes a character. -/
def isWidthless : Node → Bool
  | empty | look _ => true
  | one _ => false
  | seq a b | alt a b => a.isWidthless && b.isWidthless
  | times _ high _ a => high == some 0 || a.isWidthless
  | group _ a => a.isWidthless

/-- Whether a pattern always takes a character. -/
def isWide : Node → Bool
  | empty | look _ => false
  | one _ => true
  | seq a b => a.isWide || b.isWide
  | alt a b => a.isWide && b.isWide
  | times low _ _ a => 0 < low && a.isWide
  | group _ a => a.isWide

/-- Octets that a machine for a class takes, roughly. -/
def classCost : CharClass → Nat
  | .range low high =>
    if low == high then 32 * (Char.ofNat low).utf8Size
    else if high < 128 then 72
    else 300
  | cls => 260 + 60 * cls.rangeCount

/-- Octets that a machine for a pattern takes, roughly. A choice between several parts counts as
choices of two inside one another, and the search for a place to begin is left out, so a pattern
close to the limit may come out on the other side of it. Patterns without width count once, however
often they are repeated. -/
def cost : Node → Nat
  | empty => 32
  | one cls => classCost cls
  | look _ => 32
  | seq a b => a.cost + b.cost
  | alt a b => 68 + a.cost + b.cost
  | times low high _ a =>
    let copies (n : Nat) : Nat := if a.isWidthless then min n 1 else n
    match high with
    | none => 64 + max 1 (copies low) * a.cost
    | some high => 32 + copies high * a.cost + 32 * (copies high - copies low)
  | group _ a => 64 + a.cost

end Node
end Wirelog.Pattern
