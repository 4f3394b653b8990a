import Mathlib.Logic.Function.Iterate
import Wirelog.Pattern.Reach
/-!
Sets of places against single matches. `reach` computes with sets of places, and cuts repetition off
where more rounds cannot bring anything new; `Matches` speaks of one start and one end, and knows no
such cut. The two agree on every pattern whose repetitions have their bounds in order.
-/
namespace Wirelog.Pattern

/-! ### Members of sets of places -/

namespace Places

theorem testBit_all (t : Chars) (i : Nat) : (all t).testBit i = decide (i ≤ t.size) := by
  rw [all, Nat.one_shiftLeft, Nat.testBit_two_pow_sub_one]
  simp only [Nat.lt_add_one_iff]

private theorem testBit_collected (p : Nat → Bool) (places : List Nat) (s : Places) (i : Nat) :
    (places.foldl (fun s i => if p i then s ||| 1 <<< i else s) s).testBit i =
      (s.testBit i || (decide (i ∈ places) && p i)) := by
  induction places generalizing s with
  | nil => simp
  | cons j places ih =>
    rw [List.foldl_cons, ih]
    by_cases chosen : p j = true
    · by_cases same : i = j
      · subst same
        simp [chosen, Nat.one_shiftLeft]
      · have other : j ≠ i := fun h => same h.symm
        simp [chosen, same, other, Nat.one_shiftLeft]
    · by_cases same : i = j
      · subst same
        simp [chosen]
      · simp [chosen, same]

theorem testBit_filter (t : Chars) (p : Nat → Bool) (i : Nat) :
    (filter t p).testBit i = (decide (i ≤ t.size) && p i) := by
  rw [filter, testBit_collected]
  simp only [Nat.zero_testBit, Bool.false_or, List.mem_range, Nat.lt_add_one_iff]

theorem ne_zero_iff (s : Places) : s ≠ 0 ↔ ∃ i, s.testBit i = true := by
  constructor
  · exact Nat.exists_testBit_of_ne_zero
  · rintro ⟨i, member⟩ rfl
    simp at member

end Places

/-! ### Rounds of a step -/

/-- A number of rounds, each of which leads from one place to another. -/
inductive Rounds (R : Nat → Nat → Prop) : Nat → Nat → Nat → Prop where
  | none (i : Nat) : Rounds R 0 i i
  | once {n i j k : Nat} (first : R i j) (others : Rounds R n j k) : Rounds R (n + 1) i k

/-- A function on sets of places that goes from every place to those that a relation allows. -/
def Follows (step : Places → Places) (R : Nat → Nat → Prop) : Prop :=
  ∀ s j, (step s).testBit j = true ↔ ∃ i, s.testBit i = true ∧ R i j

namespace Rounds

variable {R : Nat → Nat → Prop} {k m n : Nat} {i j : Nat}

theorem none_iff : Rounds R 0 i j ↔ i = j := by
  constructor
  · rintro ⟨⟩
    rfl
  · rintro rfl
    exact .none i

theorem succ_iff : Rounds R (n + 1) i k ↔ ∃ j, R i j ∧ Rounds R n j k := by
  constructor
  · rintro ⟨⟩
    exact ⟨_, ‹_›, ‹_›⟩
  · rintro ⟨j, first, others⟩
    exact .once first others

theorem add_iff : Rounds R (m + n) i k ↔ ∃ j, Rounds R m i j ∧ Rounds R n j k := by
  induction m generalizing i with
  | zero => simp [none_iff]
  | succ m ih =>
    rw [Nat.add_right_comm]
    simp only [succ_iff, ih]
    constructor
    · rintro ⟨a, first, b, before, behind⟩
      exact ⟨b, ⟨a, first, before⟩, behind⟩
    · rintro ⟨b, ⟨a, first, before⟩, behind⟩
      exact ⟨a, first, b, before, behind⟩

/-- Rounds that may also stay where they are are fewer rounds that do not. -/
theorem resting_iff : Rounds (fun i j => i = j ∨ R i j) n i j ↔ ∃ m ≤ n, Rounds R m i j := by
  induction n generalizing i with
  | zero => simp [none_iff]
  | succ n ih =>
    simp only [succ_iff, ih]
    constructor
    · rintro ⟨a, rfl | first, m, few, others⟩
      · exact ⟨m, by omega, others⟩
      · exact ⟨m + 1, by omega, .once first others⟩
    · rintro ⟨m, few, rounds⟩
      cases rounds with
      | none => exact ⟨j, .inl rfl, 0, Nat.zero_le n, .none j⟩
      | once first others => exact ⟨_, .inr first, _, by omega, others⟩

theorem rise (rising : ∀ i j, R i j → i ≤ j) (rounds : Rounds R n i j) : i ≤ j := by
  induction rounds with
  | none => exact Nat.le_refl _
  | once first others ih => exact Nat.le_trans (rising _ _ first) ih

/-- A round that stays where it is can be gone any number of times. -/
private theorem idle (idle : R i i) (rounds : Rounds R m i j) (more : m ≤ n) : Rounds R n i j := by
  induction more with
  | refl => exact rounds
  | step _ ih => exact .once idle ih

/-- Rounds without those that stay where they are; these, where there are any, stand for as many as
one likes. -/
private theorem fewest (rising : ∀ i j, R i j → i ≤ j) (rounds : Rounds R k i j) :
    ∃ d, d ≤ k ∧ d ≤ j - i ∧ Rounds R d i j ∧ (d < k → ∀ n, d ≤ n → Rounds R n i j) := by
  induction rounds with
  | none i => exact ⟨0, Nat.le_refl _, Nat.zero_le _, .none i, by omega⟩
  | @once k i a j first others ih =>
    obtain ⟨d, few, short, rounds, any⟩ := ih
    have further := rise rising others
    rcases Nat.eq_or_lt_of_le (rising _ _ first) with rfl | wide
    · exact ⟨d, by omega, short, rounds, fun _ n more => idle first rounds more⟩
    · refine ⟨d + 1, by omega, by omega, .once first rounds, fun fewer n more => ?_⟩
      obtain ⟨n, rfl⟩ : ∃ m, n = m + 1 := ⟨n - 1, by omega⟩
      exact .once first (any (by omega) n (by omega))

/-- More rounds than there are places to go: one of them stays where it is, so their number does not
count. -/
theorem any (rising : ∀ i j, R i j → i ≤ j) (rounds : Rounds R k i j) (many : j - i < k)
    (enough : j - i ≤ n) : Rounds R n i j := by
  obtain ⟨d, _, short, _, any⟩ := fewest rising rounds
  exact any (by omega) n (by omega)

end Rounds

/-! ### Repeated steps on sets -/

theorem iterate_eq (step : Places → Places) (n : Nat) (s : Places) :
    iterate step n s = step^[n] s := by
  induction n generalizing s with
  | zero => rfl
  | succ n ih =>
    rw [iterate, Function.iterate_succ_apply]
    split
    case isTrue still => rw [still, Function.iterate_fixed still]
    case isFalse => exact ih _

theorem spread_eq (step : Places → Places) (n : Nat) (s : Places) :
    spread step n s = iterate (fun s => s ||| step s) n s := by
  induction n generalizing s with
  | zero => rfl
  | succ n ih => rw [spread, iterate, ih]

variable {step : Places → Places} {R : Nat → Nat → Prop}

theorem Follows.iterate (follows : Follows step R) (n : Nat) :
    Follows (iterate step n) (Rounds R n) := by
  intro s j
  rw [iterate_eq]
  induction n generalizing s with
  | zero => simp [Rounds.none_iff]
  | succ n ih =>
    rw [Function.iterate_succ_apply, ih]
    constructor
    · rintro ⟨a, reached, others⟩
      obtain ⟨i, start, first⟩ := (follows s a).mp reached
      exact ⟨i, start, .once first others⟩
    · rintro ⟨i, start, rounds⟩
      obtain ⟨a, first, others⟩ := Rounds.succ_iff.mp rounds
      exact ⟨a, (follows s a).mpr ⟨i, start, first⟩, others⟩

theorem Follows.spread (follows : Follows step R) (n : Nat) :
    Follows (spread step n) fun i j => ∃ m ≤ n, Rounds R m i j := by
  have resting : Follows (fun s => s ||| step s) fun i j => i = j ∨ R i j := by
    intro s j
    rw [Nat.testBit_or, Bool.or_eq_true, follows s j]
    constructor
    · rintro (here | ⟨i, start, first⟩)
      · exact ⟨j, here, .inl rfl⟩
      · exact ⟨i, start, .inr first⟩
    · rintro ⟨i, start, rfl | first⟩
      · exact .inl start
      · exact .inr ⟨i, start, first⟩
  intro s j
  rw [spread_eq, resting.iterate n s j]
  simp only [Rounds.resting_iff]

/-! ### Single matches -/

/-- A pattern whose repetitions all have their bounds in order. -/
def Node.Orderly : Node → Prop
  | .empty | .one _ | .look _ => True
  | .seq a b | .alt a b => a.Orderly ∧ b.Orderly
  | .times low high _ a => (∀ h ∈ high, low ≤ h) ∧ a.Orderly
  | .group _ a => a.Orderly

variable {t : Chars} {a b : Node} {i j low : Nat} {high : Option Nat} {greedy : Bool}

/-- A match does not go backwards, and stays inside the text. -/
theorem Matches.inside (found : Matches t a i j) : i ≤ j ∧ j ≤ t.size := by
  induction found with
  | empty i inside | look inside _ | done i inside => exact ⟨Nat.le_refl _, inside⟩
  | @one cls i c there mem =>
    have below : i < t.size := by
      obtain ⟨below, _⟩ := Array.getElem?_eq_some_iff.mp there
      exact below
    omega
  | seq _ _ first second => exact ⟨by omega, second.2⟩
  | altLeft _ ih | altRight _ ih | group _ ih => exact ih
  | need _ _ _ first others | more _ _ _ first others => exact ⟨by omega, others.2⟩

theorem matches_empty : Matches t .empty i j ↔ i = j ∧ i ≤ t.size := by
  constructor
  · rintro ⟨⟩
    exact ⟨rfl, ‹_›⟩
  · rintro ⟨rfl, inside⟩
    exact .empty i inside

theorem matches_one {cls : CharClass} :
    Matches t (.one cls) i j ↔ j = i + 1 ∧ (t[i]?).any cls.mem = true := by
  constructor
  · rintro ⟨⟩
    rename_i mem there
    exact ⟨rfl, by rw [there]; exact mem⟩
  · rintro ⟨rfl, fits⟩
    obtain ⟨c, there, mem⟩ := (Option.any_eq_true _ _).mp fits
    exact .one there mem

theorem matches_look {l : Look} :
    Matches t (.look l) i j ↔ i = j ∧ i ≤ t.size ∧ l.holds t i = true := by
  constructor
  · rintro ⟨⟩
    exact ⟨rfl, ‹_›, ‹_›⟩
  · rintro ⟨rfl, inside, holds⟩
    exact .look inside holds

theorem matches_seq : Matches t (.seq a b) i j ↔ ∃ k, Matches t a i k ∧ Matches t b k j := by
  constructor
  · rintro ⟨⟩
    exact ⟨_, ‹_›, ‹_›⟩
  · rintro ⟨k, first, second⟩
    exact .seq first second

theorem matches_alt : Matches t (.alt a b) i j ↔ Matches t a i j ∨ Matches t b i j := by
  constructor
  · intro found
    cases found with
    | altLeft left => exact .inl left
    | altRight right => exact .inr right
  · rintro (left | right)
    · exact .altLeft left
    · exact .altRight right

theorem matches_group {number : Nat} : Matches t (.group number a) i j ↔ Matches t a i j := by
  constructor
  · rintro ⟨⟩
    assumption
  · exact .group

private theorem rounds_inside {n : Nat} (inside : i ≤ t.size)
    (rounds : Rounds (Matches t a) n i j) : j ≤ t.size := by
  induction rounds with
  | none i => exact inside
  | once first _ ih => exact ih first.inside.2

private theorem rounds_of_times (found : Matches t (.times low high greedy a) i j) :
    ∃ n, low ≤ n ∧ (∀ h ∈ high, n ≤ h) ∧ Rounds (Matches t a) n i j := by
  generalize same : Node.times low high greedy a = node at found
  induction found generalizing low high with
  | done i => cases same; exact ⟨0, Nat.le_refl _, fun h _ => Nat.zero_le h, .none i⟩
  | need allowed once _ _ ih | more allowed once _ _ ih =>
    cases same
    obtain ⟨n, least, most, rounds⟩ := ih rfl
    refine ⟨n + 1, by omega, fun h bound => ?_, .once once rounds⟩
    subst bound
    have most := most (h - 1) rfl
    have positive : h ≠ 0 := fun zero => allowed (by rw [zero])
    omega
  | _ => cases same

private theorem times_of_rounds {n : Nat} (inside : i ≤ t.size) (least : low ≤ n)
    (most : ∀ h ∈ high, n ≤ h) (rounds : Rounds (Matches t a) n i j) :
    Matches t (.times low high greedy a) i j := by
  induction rounds generalizing low high with
  | none i =>
    obtain rfl : low = 0 := by omega
    exact .done i inside
  | @once n i k j first others ih =>
    have allowed : high ≠ some 0 := by
      rintro rfl
      have := most 0 rfl
      omega
    have most' : ∀ h ∈ high.map (· - 1), n ≤ h := by
      intro _ lowered
      obtain ⟨h, bound, rfl⟩ := Option.map_eq_some_iff.mp lowered
      have := most h bound
      omega
    have inside : k ≤ t.size := first.inside.2
    cases low with
    | zero => exact .more allowed first (ih inside (Nat.zero_le n) most')
    | succ low => exact .need allowed first (ih inside (by omega) most')

/-- A repetition is a number of rounds within its bounds. -/
theorem matches_times : Matches t (.times low high greedy a) i j ↔
    i ≤ t.size ∧ ∃ n, low ≤ n ∧ (∀ h ∈ high, n ≤ h) ∧ Rounds (Matches t a) n i j := by
  constructor
  · intro found
    have := found.inside
    exact ⟨by omega, rounds_of_times found⟩
  · rintro ⟨inside, n, least, most, rounds⟩
    exact times_of_rounds inside least most rounds

/-! ### Both together -/

/-- The number of optional rounds that `reach` goes. -/
private def optional (size low : Nat) : Option Nat → Nat
  | none => size + 2
  | some high => min (high - low) (size + 2)

/-- Bounds beyond the number of places may be cut off: a match that needs so many rounds has one
that stays where it is. -/
private theorem clipped_iff {size : Nat} (rising : ∀ i j, R i j → i ≤ j) (short : j - i ≤ size)
    (ordered : ∀ h ∈ high, low ≤ h) :
    (∃ m ≤ optional size low high, Rounds R (min low (size + 2) + m) i j) ↔
      ∃ n, low ≤ n ∧ (∀ h ∈ high, n ≤ h) ∧ Rounds R n i j := by
  constructor
  · rintro ⟨m, few, rounds⟩
    by_cases small : low ≤ size + 2
    · rw [Nat.min_eq_left small] at rounds
      refine ⟨low + m, by omega, fun h bound => ?_, rounds⟩
      subst bound
      have := ordered h rfl
      simp only [optional] at few
      omega
    · exact ⟨low, Nat.le_refl _, ordered, rounds.any rising (by omega) (by omega)⟩
  · rintro ⟨n, least, most, rounds⟩
    by_cases few : n - low ≤ size + 2
    · have within : n - low ≤ optional size low high := by
        cases high with
        | none => exact few
        | some h =>
          have := most h rfl
          simp only [optional]
          omega
      by_cases small : low ≤ size + 2
      · refine ⟨n - low, within, ?_⟩
        rw [Nat.min_eq_left small, Nat.add_sub_cancel' least]
        exact rounds
      · exact ⟨0, Nat.zero_le _, rounds.any rising (by omega) (by omega)⟩
    · have all : optional size low high = size + 2 := by
        cases high with
        | none => rfl
        | some h =>
          have := most h rfl
          simp only [optional]
          omega
      exact ⟨size + 2, by omega, rounds.any rising (by omega) (by omega)⟩

private theorem reach_times (t : Chars) (low : Nat) (high : Option Nat) (greedy : Bool) (a : Node)
    (s : Places) :
    reach t (.times low high greedy a) s =
      spread (reach t a) (optional t.size low high)
        (iterate (reach t a) (min low (t.size + 2)) (s &&& Places.all t)) := by
  cases high <;> rfl

/-- From a set of places, `reach` gives the ends of the matches that start in it. -/
theorem reach_follows (t : Chars) (a : Node) (orderly : a.Orderly) :
    Follows (reach t a) (Matches t a) := by
  induction a with
  | empty =>
    intro s j
    rw [reach, Nat.testBit_and, Places.testBit_all]
    simp only [matches_empty, Bool.and_eq_true, decide_eq_true_eq]
    constructor
    · rintro ⟨start, inside⟩
      exact ⟨j, start, rfl, inside⟩
    · rintro ⟨i, start, rfl, inside⟩
      exact ⟨start, inside⟩
  | one cls =>
    intro s j
    rw [reach, Nat.testBit_shiftLeft]
    simp only [matches_one, Bool.and_eq_true, decide_eq_true_eq, Nat.testBit_and,
      Places.testBit_filter]
    constructor
    · rintro ⟨later, start, _, fits⟩
      exact ⟨j - 1, start, by omega, fits⟩
    · rintro ⟨i, start, rfl, fits⟩
      have inside := (Matches.inside (matches_one.mpr ⟨rfl, fits⟩)).2
      exact ⟨by omega, start, by omega, fits⟩
  | look l =>
    intro s j
    rw [reach, Nat.testBit_and, Places.testBit_filter]
    simp only [matches_look, Bool.and_eq_true, decide_eq_true_eq]
    constructor
    · rintro ⟨start, inside, holds⟩
      exact ⟨j, start, rfl, inside, holds⟩
    · rintro ⟨i, start, rfl, inside, holds⟩
      exact ⟨start, inside, holds⟩
  | seq a b first second =>
    intro s j
    rw [reach, second orderly.2]
    simp only [first orderly.1 s, matches_seq]
    constructor
    · rintro ⟨k, ⟨i, start, before⟩, behind⟩
      exact ⟨i, start, k, before, behind⟩
    · rintro ⟨i, start, k, before, behind⟩
      exact ⟨k, ⟨i, start, before⟩, behind⟩
  | alt a b left right =>
    intro s j
    rw [reach, Nat.testBit_or, Bool.or_eq_true, left orderly.1, right orderly.2]
    simp only [matches_alt, and_or_left, exists_or]
  | times low high greedy a ih =>
    intro s j
    have follows := ih orderly.2
    have rising : ∀ i j, Matches t a i j → i ≤ j := fun _ _ found => found.inside.1
    rw [reach_times, follows.spread _ _ j]
    simp only [follows.iterate _ _ _, Nat.testBit_and, Places.testBit_all, Bool.and_eq_true,
      decide_eq_true_eq, matches_times]
    constructor
    · rintro ⟨k, ⟨i, ⟨start, inside⟩, must⟩, m, few, others⟩
      have rounds := Rounds.add_iff.mpr ⟨k, must, others⟩
      have short : j - i ≤ t.size := by have := rounds_inside inside rounds; omega
      exact ⟨i, start, inside, (clipped_iff rising short orderly.1).mp ⟨m, few, rounds⟩⟩
    · rintro ⟨i, start, inside, n, least, most, rounds⟩
      have short : j - i ≤ t.size := by have := rounds_inside inside rounds; omega
      obtain ⟨m, few, rounds⟩ := (clipped_iff rising short orderly.1).mpr ⟨n, least, most, rounds⟩
      obtain ⟨k, must, others⟩ := Rounds.add_iff.mp rounds
      exact ⟨k, ⟨i, ⟨start, inside⟩, must⟩, m, few, others⟩
  | group number a ih =>
    intro s j
    rw [reach, ih orderly]
    simp only [matches_group]

/-- A pattern occurs in a text just when it matches between two of its places. -/
theorem occursIn_iff (t : Chars) (orderly : a.Orderly) :
    occursIn a t = true ↔ ∃ i j, Matches t a i j := by
  rw [occursIn, bne_iff_ne, Places.ne_zero_iff]
  simp only [reach_follows t a orderly _ _, Places.testBit_all, decide_eq_true_eq]
  constructor
  · rintro ⟨j, i, _, found⟩
    exact ⟨i, j, found⟩
  · rintro ⟨i, j, found⟩
    have := found.inside
    exact ⟨j, i, by omega, found⟩

/-- Between conditions for both ends of the text, a pattern occurs just when it matches the whole of
it. -/
theorem occursIn_ends (t : Chars) (orderly : a.Orderly) :
    occursIn (.seq (.seq (.look .textStart) a) (.look .textEnd)) t = true ↔
      Matches t a 0 t.size := by
  have ends : (Node.seq (.seq (.look .textStart) a) (.look .textEnd)).Orderly :=
    ⟨⟨trivial, orderly⟩, trivial⟩
  rw [occursIn_iff t ends]
  simp only [matches_seq, matches_look, Look.holds, beq_iff_eq]
  constructor
  · rintro ⟨i, j, k, ⟨_, ⟨rfl, _, rfl⟩, found⟩, rfl, _, rfl⟩
    exact found
  · intro found
    exact ⟨0, t.size, t.size, ⟨0, ⟨rfl, Nat.zero_le _, rfl⟩, found⟩, rfl, Nat.le_refl _, rfl⟩

end Wirelog.Pattern
