import Mathlib.Data.List.TakeWhile
import Wirelog.Json.Parser
import Wirelog.Proofs.DigitRows

/-! The numbers and the quoted texts of JSON. A reader of one takes some characters from the left;
it takes the same ones, and gives the same for them, whatever follows them, as long as this does not
prolong a number. So a number or a quoted text can be told by itself, without what comes behind. -/
namespace Wirelog.JsonLexemes
open Json DigitRows

/-! ## Numbers -/

/-- The characters that may prolong a number. -/
def prolongs (c : Char) : Bool :=
  c.isDigit || c == '.' || c == 'e' || c == 'E'

theorem stops_digits {s : List Char} (stops : Stops prolongs s) : Stops Char.isDigit s := by
  intro c member
  have outside := stops c member
  simp only [prolongs, Bool.or_eq_false_iff] at outside
  exact outside.1.1.1

theorem stops_point {s : List Char} (stops : Stops prolongs s) : Stops (· == '.') s := by
  intro c member
  have outside := stops c member
  simp only [prolongs, Bool.or_eq_false_iff] at outside
  exact outside.1.1.2

theorem stops_append {p : Char → Bool} {s rest : List Char} (first : ∀ c ∈ s.head?, p c = false)
    (stops : Stops p rest) : Stops p (s ++ rest) := by
  cases s with
  | nil => exact stops
  | cons c s => exact stops_cons _ (first c rfl)

theorem fraction_none {s : List Char} (pointless : Stops (· == '.') s) :
    fraction s = some ([], s) := by
  cases s with
  | nil => rfl
  | cons c rest =>
    rw [fraction]
    rintro _ same
    cases same
    cases pointless '.' rfl

theorem exponent_none {s : List Char} (stops : Stops prolongs s) : exponent s = some ([], s) := by
  cases s with
  | nil => rfl
  | cons c rest =>
    have outside := stops c rfl
    simp only [prolongs, Bool.or_eq_false_iff] at outside
    simp only [exponent, outside.1.2, outside.2, Bool.or_self, Bool.false_eq_true, ↓reduceIte]

theorem digits_split {s row rest : List Char} (split : digits s = (row, rest)) :
    s = row ++ rest ∧ ∀ c ∈ row, c.isDigit = true := by
  cases split
  exact ⟨List.takeWhile_append_dropWhile.symm, fun c member => List.mem_takeWhile_imp member⟩

theorem digits_row {row rest : List Char} (inside : ∀ c ∈ row, c.isDigit = true)
    (stops : Stops Char.isDigit rest) : digits (row ++ rest) = (row, rest) := by
  rw [digits, takeWhile_row inside stops, dropWhile_row inside stops]

/-- The fraction is what was taken, and it is taken in front of all that does not prolong it. -/
theorem fraction_cut {s part rest : List Char} (read : fraction s = some (part, rest)) :
    s = part ++ rest ∧ (∀ c ∈ part.head?, c = '.') ∧ ∀ other, Stops Char.isDigit other →
      Stops (· == '.') other → fraction (part ++ other) = some (part, other) := by
  unfold fraction at read
  split at read
  · rename_i tail
    cases split_up : digits tail with
    | mk row behind =>
      obtain ⟨whole, inside⟩ := digits_split split_up
      simp only [split_up] at read
      split at read
      · cases read
      · rename_i filled
        cases read
        refine ⟨by rw [whole]; rfl, by simp, fun other stops _ => ?_⟩
        simp only [List.cons_append, fraction, digits_row inside stops, filled,
          Bool.false_eq_true, ↓reduceIte]
  · cases read
    exact ⟨rfl, nofun, fun other _ pointless => fraction_none pointless⟩

/-- What an exponent is made of behind its mark: a sign, if there is one, and some digits. -/
theorem exponent_marked {e : Char} (mark : (e == 'e' || e == 'E') = true)
    {sign : List Char} (signed : sign = ['+'] ∨ sign = ['-'] ∨ sign = []) {row : List Char}
    (inside : ∀ c ∈ row, c.isDigit = true) (filled : row ≠ []) {rest : List Char}
    (stops : Stops Char.isDigit rest) :
    exponent (e :: (sign ++ row) ++ rest) = some (e :: (sign ++ row), rest) := by
  have digits := digits_row inside stops
  have nonempty : row.isEmpty = false := List.isEmpty_eq_false_iff.mpr filled
  rcases signed with rfl | rfl | rfl
  · simp [exponent, mark, digits, nonempty]
  · simp [exponent, mark, digits, nonempty]
  · cases row with
    | nil => exact absurd rfl filled
    | cons c row =>
      have digit := inside c List.mem_cons_self
      simp only [List.nil_append, List.cons_append] at digits ⊢
      simp only [exponent, mark, ↓reduceIte]
      split
      · rename_i same
        cases same
        cases digit
      · rename_i same
        cases same
        cases digit
      · simp only [digits, nonempty, Bool.false_eq_true, ↓reduceIte, List.nil_append]

theorem exponent_cut {s part rest : List Char} (read : exponent s = some (part, rest)) :
    s = part ++ rest ∧ (∀ c ∈ part.head?, c = 'e' ∨ c = 'E') ∧ ∀ other, Stops prolongs other →
      exponent (part ++ other) = some (part, other) := by
  unfold exponent at read
  split at read
  · rename_i e tail
    split at read
    · rename_i mark
      split at read
      rename_i sign behind parts
      have signed : (sign = ['+'] ∨ sign = ['-'] ∨ sign = []) ∧ tail = sign ++ behind := by
        split at parts <;> cases parts <;> simp
      cases split_up : digits behind with
      | mk row last =>
        obtain ⟨whole, inside⟩ := digits_split split_up
        simp only [split_up] at read
        split at read
        · cases read
        · rename_i filled
          cases read
          refine ⟨by simp [signed.2, whole], by simpa using mark, fun other stops => ?_⟩
          exact exponent_marked mark signed.1 inside (by simpa using filled) (stops_digits stops)
    · cases read
      exact ⟨rfl, nofun, fun other stops => exponent_none stops⟩
  · cases read
    exact ⟨rfl, nofun, fun other stops => exponent_none stops⟩

/-- A number is what was taken, and it is taken in front of all that does not prolong it. -/
theorem magnitude_cut {negative : Bool} {s rest : List Char} {j : Json}
    (read : magnitude negative s = some (j, rest)) :
    ∃ part c tail, s = part ++ rest ∧ part = c :: tail ∧ c.isDigit = true ∧
      ∀ other, Stops prolongs other → magnitude negative (part ++ other) = some (j, other) := by
  unfold magnitude at read
  cases split_up : digits s with
  | mk row behind =>
    obtain ⟨whole, inside⟩ := digits_split split_up
    simp only [split_up] at read
    split at read
    · cases read
    · rename_i proper
      obtain ⟨⟨frac, behind'⟩, point, read⟩ := Option.bind_eq_some_iff.mp read
      obtain ⟨⟨exp, last⟩, mark, read⟩ := Option.bind_eq_some_iff.mp read
      obtain ⟨n, number, read⟩ := Option.bind_eq_some_iff.mp read
      dsimp only at mark read
      obtain ⟨wholeFrac, headFrac, againFrac⟩ := fraction_cut point
      obtain ⟨wholeExp, headExp, againExp⟩ := exponent_cut mark
      have filled : row ≠ [] := by
        rintro rfl
        exact proper rfl
      obtain ⟨c, row', rfl⟩ := List.exists_cons_of_ne_nil filled
      refine ⟨c :: (row' ++ (frac ++ exp)), c, _, ?whole, rfl, inside c List.mem_cons_self, ?again⟩
      case whole =>
        have ended : last = rest := by
          split at read <;> cases read <;> rfl
        rw [whole, wholeFrac, wholeExp, ended]
        simp
      case again =>
        intro other stops
        have behindFrac : Stops Char.isDigit (exp ++ other) ∧ Stops (· == '.') (exp ++ other) := by
          constructor
          · refine stops_append (fun d first => ?_) (stops_digits stops)
            rcases headExp d first with rfl | rfl <;> rfl
          · refine stops_append (fun d first => ?_) (stops_point stops)
            rcases headExp d first with rfl | rfl <;> rfl
        have behindRow : Stops Char.isDigit (frac ++ (exp ++ other)) := by
          refine stops_append (fun d first => ?_) behindFrac.1
          rw [headFrac d first]
          rfl
        have row := digits_row inside behindRow
        have parts : c :: (row' ++ (frac ++ exp)) ++ other =
            c :: row' ++ (frac ++ (exp ++ other)) := by simp
        rw [parts]
        simp only [magnitude, row, proper, againFrac _ behindFrac.1 behindFrac.2,
          againExp other stops, number, Option.bind_eq_bind, Option.bind_some]
        split at read
        · rename_i int
          cases read
          exact if_pos int
        · rename_i real
          cases read
          exact if_neg real

/-- What is taken for a number is one by itself. -/
theorem magnitude_alone {negative : Bool} {s rest : List Char} {j : Json}
    (read : magnitude negative s = some (j, rest)) :
    ∃ part, s = part ++ rest ∧ magnitude negative part = some (j, []) := by
  obtain ⟨part, _, _, whole, _, _, again⟩ := magnitude_cut read
  have alone := again [] stops_nil
  rw [List.append_nil] at alone
  exact ⟨part, whole, alone⟩

theorem magnitude_front {negative : Bool} {part : List Char} {j : Json}
    (read : magnitude negative part = some (j, [])) {other : List Char}
    (stops : Stops prolongs other) : magnitude negative (part ++ other) = some (j, other) := by
  obtain ⟨_, _, _, whole, _, _, again⟩ := magnitude_cut read
  rw [List.append_nil] at whole
  rw [whole]
  exact again other stops

theorem magnitude_begins {negative : Bool} {s rest : List Char} {j : Json}
    (read : magnitude negative s = some (j, rest)) :
    ∃ c tail, s = c :: tail ∧ c.isDigit = true := by
  obtain ⟨_, c, _, rfl, rfl, digit, _⟩ := magnitude_cut read
  exact ⟨c, _, rfl, digit⟩

/-! ## Quoted texts -/

/-- A character that needs no escape is read as it stands. -/
theorem quoted_plain (q : Quoted) {c : Char} (rest : List Char) (quote : c ≠ '"')
    (backslash : c ≠ '\\') (printed : ¬ c.toNat < 32) :
    quoted q (c :: rest) = quoted (q.push c) rest := by
  rw [quoted]
  · have plain : (decide (c.toNat < 32) || c == '\\') = false := by
      simp only [printed, decide_false, Bool.false_or, beq_eq_false_iff_ne, ne_eq, backslash,
        not_false_eq_true]
    rw [plain]
    rfl
  · exact quote
  · exact fun _ _ _ _ _ same _ => backslash same
  · exact fun _ _ same _ => backslash same

/-- An escape of two characters is read as what it stands for. -/
theorem quoted_escaped (q : Quoted) {e c : Char} (escape : escapeChar? e = some c)
    (rest : List Char) : quoted q ('\\' :: e :: rest) = quoted (q.push c) rest := by
  rw [quoted, escape]
  rintro _ _ _ _ _ rfl
  cases escape

/-- A quoted text is what was taken, and it is taken in front of anything. -/
theorem quoted_cut {q : Quoted} {s rest : List Char} {spelling : Spelling}
    (read : quoted q s = some (spelling, rest)) :
    ∃ part, s = part ++ rest ∧ ∀ other, quoted q (part ++ other) = some (spelling, other) := by
  induction q, s using quoted.induct with
  | case1 q => cases read
  | case2 q rest =>
    cases read
    exact ⟨['"'], rfl, fun other => rfl⟩
  | case3 q a b c d tail u unit ih =>
    rw [quoted, unit] at read
    obtain ⟨part, rfl, again⟩ := ih read
    refine ⟨'\\' :: 'u' :: a :: b :: c :: d :: part, rfl, fun other => ?_⟩
    simp only [List.cons_append, quoted, unit, again]
  | case4 q a b c d tail unit =>
    rw [quoted, unit] at read
    cases read
  | case5 q e tail _ c escape ih =>
    rw [quoted_escaped q escape] at read
    obtain ⟨part, rfl, again⟩ := ih read
    refine ⟨'\\' :: e :: part, rfl, fun other => ?_⟩
    rw [List.cons_append, List.cons_append, quoted_escaped q escape, again]
  | case6 q e tail short escape =>
    rw [quoted, escape] at read
    · cases read
    · exact short
  | case7 q c tail quote long short refused =>
    rw [quoted, if_pos refused] at read
    · cases read
    · exact quote
    · exact long
    · exact short
  | case8 q c tail quote _ _ plain ih =>
    simp only [Bool.or_eq_true, decide_eq_true_eq, beq_iff_eq, not_or] at plain
    have step := fun other => quoted_plain q other quote plain.2 plain.1
    rw [step] at read
    obtain ⟨part, rfl, again⟩ := ih read
    refine ⟨c :: part, rfl, fun other => ?_⟩
    rw [List.cons_append, step, again]

/-- What is taken for a quoted text is one by itself. -/
theorem quoted_alone {q : Quoted} {s rest : List Char} {spelling : Spelling}
    (read : quoted q s = some (spelling, rest)) :
    ∃ part, s = part ++ rest ∧ quoted q part = some (spelling, []) := by
  obtain ⟨part, whole, again⟩ := quoted_cut read
  have alone := again []
  rw [List.append_nil] at alone
  exact ⟨part, whole, alone⟩

theorem quoted_front {q : Quoted} {part : List Char} {spelling : Spelling}
    (read : quoted q part = some (spelling, [])) (other : List Char) :
    quoted q (part ++ other) = some (spelling, other) := by
  obtain ⟨_, whole, again⟩ := quoted_cut read
  rw [List.append_nil] at whole
  rw [whole]
  exact again other

end Wirelog.JsonLexemes
