import Wirelog.Text.Split
/-!
Labels of domain names whose characters beyond ASCII are spelled in ASCII. The characters of ASCII
come first, and a hyphen ends them; a row of numbers follows, each of which says how far the next
character is from the one before, counted over code points and places at once.
-/
namespace Wirelog.Url.Punycode

/-- The value of a digit: the letters of either case, then the decimal digits. -/
def digit? (c : Char) : Option Nat :=
  if 'a' ≤ c ∧ c ≤ 'z' then some (c.toNat - 'a'.toNat)
  else if 'A' ≤ c ∧ c ≤ 'Z' then some (c.toNat - 'A'.toNat)
  else if '0' ≤ c ∧ c ≤ '9' then some (c.toNat - '0'.toNat + 26)
  else none

/-- How many places the thresholds of the next number shift, from a number that was evened out. -/
def shift (delta : Nat) : Nat :=
  if 455 < delta then 36 + shift (delta / 35) else 36 * delta / (delta + 38)
termination_by delta
decreasing_by omega

/-- The shift after a number, for a label that then has so many characters. The first number is
taken for much too great. -/
def adapt (delta size : Nat) (first : Bool) : Nat :=
  let delta := if first then delta / 700 else delta / 2
  shift (delta + delta / size)

/-- Reads one number, the lowest digit first: the number and the rest. A digit below the threshold
of its place is the last one. -/
def takeNumber (bias place weight acc : Nat) : List Char → Option (Nat × List Char)
  | [] => none
  | c :: rest => do
    let d ← digit? c
    let threshold := if place ≤ bias then 1 else if bias + 26 ≤ place then 26 else place - bias
    let acc := acc + d * weight
    if d < threshold then some (acc, rest)
    else takeNumber bias (place + 36) (weight * (36 - threshold)) acc rest

theorem length_takeNumber {bias place weight acc n : Nat} {s rest : List Char}
    (h : takeNumber bias place weight acc s = some (n, rest)) : rest.length < s.length := by
  induction s generalizing place weight acc with
  | nil => simp [takeNumber] at h
  | cons c s ih =>
    simp only [takeNumber, Option.bind_eq_bind, Option.bind_eq_some_iff] at h
    obtain ⟨d, -, h⟩ := h
    generalize (if place ≤ bias then 1 else if bias + 26 ≤ place then 26 else place - bias) = t at h
    split at h
    · simp only [Option.some.injEq, Prod.mk.injEq] at h
      simp [← h.2]
    · exact Nat.lt_succ_of_lt (ih h)

/-- Puts the characters that the numbers stand for into a label. `point` is the code point so far,
and `at0` the place, which is zero before the first number only. -/
def insertAll (point at0 bias : Nat) (label s : List Char) : Option (List Char) :=
  if s.isEmpty then some label
  else
    match h : takeNumber bias 36 1 0 s with
    | none => none
    | some (delta, rest) =>
      let size := label.length + 1
      let moved := at0 + delta
      let point := point + moved / size
      if point.isValidChar then
        let label := label.insertIdx (moved % size) (Char.ofNat point)
        insertAll point (moved % size + 1) (adapt delta size (at0 == 0)) label rest
      else none
termination_by s.length
decreasing_by exact length_takeNumber h

/-- The label that a text spells. -/
def decode? (s : List Char) : Option (List Char) :=
  let (plain, numbers) := match Text.cutLast '-' s with
    | some (c :: plain, numbers) => (c :: plain, numbers)
    | _ => ([], s)
  insertAll 128 0 72 plain numbers

end Wirelog.Url.Punycode
