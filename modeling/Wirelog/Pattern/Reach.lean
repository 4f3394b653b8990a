import Wirelog.Pattern.Syntax
/-!
Deciding whether a pattern matches. Sets of places are numbers, bit by bit: from the set of places
at which a pattern may start, one pass over the pattern gives the set of places at which it may
end. Repetition goes on until nothing new is reached, which takes no more rounds than there are
places, so the whole is polynomial whatever the pattern.
-/
namespace Wirelog.Pattern

/-- A set of places: place `i` belongs to it when bit `i` is set. -/
abbrev Places := Nat

namespace Places

/-- All places of a text. -/
def all (t : Chars) : Places :=
  1 <<< (t.size + 1) - 1

/-- The places of a text that satisfy a condition. -/
def filter (t : Chars) (p : Nat → Bool) : Places :=
  (List.range (t.size + 1)).foldl (fun s i => if p i then s ||| 1 <<< i else s) 0

end Places

/-- Repeats a step a number of times, or until it changes nothing. -/
def iterate (step : Places → Places) : Nat → Places → Places
  | 0, s => s
  | n + 1, s =>
    let next := step s
    if next = s then s else iterate step n next

/-- Adds what further steps reach, for a number of steps or until nothing new comes. -/
def spread (step : Places → Places) : Nat → Places → Places
  | 0, s => s
  | n + 1, s =>
    let next := s ||| step s
    if next = s then s else spread step n next

/-- The places at which a pattern may end when it starts at one of some places. Rounds of a
repetition beyond the number of places change nothing. -/
def reach (t : Chars) : Node → Places → Places
  | .empty, s => s &&& Places.all t
  | .one cls, s => (s &&& Places.filter t fun i => (t[i]?).any cls.mem) <<< 1
  | .look l, s => s &&& Places.filter t fun i => l.holds t i
  | .seq a b, s => reach t b (reach t a s)
  | .alt a b, s => reach t a s ||| reach t b s
  | .times low high _ a, s =>
    let must := iterate (reach t a) (min low (t.size + 2)) (s &&& Places.all t)
    let rounds := match high with
      | none => t.size + 2
      | some high => min (high - low) (t.size + 2)
    spread (reach t a) rounds must
  | .group _ a, s => reach t a s

/-- Whether a pattern matches somewhere in a text. -/
def occursIn (a : Node) (t : Chars) : Bool :=
  reach t a (Places.all t) != 0

end Wirelog.Pattern
