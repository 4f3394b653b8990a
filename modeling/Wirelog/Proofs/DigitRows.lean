import Wirelog.Text.Ascii
import Wirelog.Text.Blank

/-! Rows of decimal digits. A number is read back from its digits, with or without leading zeros,
and a row that nothing but a digit could prolong ends where it was written to end. -/
namespace Wirelog.DigitRows
open Text

/-- That a text does not begin with a character of a class. -/
def Stops (p : Char → Bool) (s : List Char) : Prop :=
  ∀ c ∈ s.head?, p c = false

theorem stops_nil {p : Char → Bool} : Stops p [] := by
  intro first member
  cases member

theorem stops_cons {p : Char → Bool} {c : Char} (s : List Char) (outside : p c = false) :
    Stops p (c :: s) := by
  intro first member
  cases member
  exact outside

theorem takeWhile_row {p : Char → Bool} {row rest : List Char} (inside : ∀ c ∈ row, p c = true)
    (stops : Stops p rest) : (row ++ rest).takeWhile p = row := by
  rw [List.takeWhile_append_of_pos inside]
  cases rest with
  | nil => rw [List.takeWhile_nil, List.append_nil]
  | cons c rest =>
    have outside := stops c rfl
    rw [List.takeWhile_cons_of_neg (by rw [outside]; decide), List.append_nil]

theorem dropWhile_stops {p : Char → Bool} {s : List Char} (stops : Stops p s) :
    s.dropWhile p = s := by
  cases s with
  | nil => rfl
  | cons c rest =>
    have outside := stops c rfl
    rw [List.dropWhile_cons_of_neg (by rw [outside]; decide)]

theorem dropLead_stops {p : Char → Bool} {s : List Char} (stops : Stops p s) : dropLead p s = s :=
  dropWhile_stops stops

theorem dropWhile_row {p : Char → Bool} {row rest : List Char} (inside : ∀ c ∈ row, p c = true)
    (stops : Stops p rest) : (row ++ rest).dropWhile p = rest := by
  rw [List.dropWhile_append_of_pos inside, dropWhile_stops stops]

/-- Digits have values, and these are below ten. -/
theorem digitValue_isDigit {c : Char} (digit : c.isDigit = true) :
    digitValue c = some (c.toNat - 48) ∧ c.toNat - 48 < 10 := by
  simp only [Char.isDigit, Bool.and_eq_true, decide_eq_true_eq] at digit
  obtain ⟨least, most⟩ := digit
  have bounds : '0' ≤ c ∧ c ≤ '9' := ⟨least, most⟩
  refine ⟨by simp only [digitValue, bounds]; rfl, ?_⟩
  have : c.toNat ≤ 57 := most
  omega

/-- A row of digits is a number. -/
theorem numeral_row {row : List Char} (digits : ∀ c ∈ row, c.isDigit = true) :
    numeral 10 digitValue row = some (Nat.ofDigitChars 10 row 0) := by
  rw [numeral]
  generalize 0 = acc
  induction row generalizing acc with
  | nil => rfl
  | cons c rest ih =>
    obtain ⟨value, bound⟩ := digitValue_isDigit (digits c List.mem_cons_self)
    have later := ih (fun d member => digits d (List.mem_cons_of_mem _ member))
      (acc * 10 + (c.toNat - 48))
    simp only [numeral.go, value, Option.bind_eq_bind, Option.bind_some, bound, ↓reduceIte, later]
    rw [Nat.ofDigitChars_cons, Nat.mul_comm acc 10]
    rfl

theorem isDigit_of_value {c : Char} {d : Nat} (value : digitValue c = some d) :
    c.isDigit = true := by
  unfold digitValue at value
  split at value
  · rename_i bounds
    simp only [Char.isDigit, Bool.and_eq_true, decide_eq_true_eq]
    exact ⟨bounds.1, bounds.2⟩
  · cases value

/-- Only digits make a number. -/
theorem digits_of_numeral {row : List Char} {n : Nat} (read : numeral 10 digitValue row = some n) :
    ∀ c ∈ row, c.isDigit = true := by
  rw [numeral] at read
  generalize 0 = acc at read
  induction row generalizing acc with
  | nil => exact List.forall_mem_nil _
  | cons c rest ih =>
    obtain ⟨digit, valued, onward⟩ := Option.bind_eq_some_iff.mp read
    refine List.forall_mem_cons.mpr ⟨isDigit_of_value valued, ?_⟩
    split at onward
    · exact ih _ onward
    · cases onward

/-- A digit is no blank. -/
theorem isBlank_isDigit {c : Char} (digit : c.isDigit = true) : isBlank c = false := by
  simp only [Char.isDigit, Bool.and_eq_true, decide_eq_true_eq] at digit
  have least : 48 ≤ c.toNat := digit.1
  have most : c.toNat ≤ 57 := digit.2
  simp only [isBlank, Bool.or_eq_false_iff, Bool.and_eq_false_iff, decide_eq_false_iff_not,
    beq_eq_false_iff_ne]
  omega

theorem toDigits_isDigit (n : Nat) : ∀ c ∈ Nat.toDigits 10 n, c.isDigit = true :=
  fun _ => Nat.isDigit_of_mem_toDigits (by decide) (by decide)

theorem numeral_toDigits (n : Nat) : numeral 10 digitValue (Nat.toDigits 10 n) = some n := by
  rw [numeral_row (toDigits_isDigit n), Nat.ofDigitChars_toDigits (by decide) (by decide)]

/-- Different numbers have different digits. -/
theorem natText_injective {m n : Nat} (same : natText m = natText n) : m = n := by
  have digits : Nat.toDigits 10 m = Nat.toDigits 10 n := by
    simpa only [natText, String.toList_ofList] using congrArg String.toList same
  have read := numeral_toDigits m
  rw [digits, numeral_toDigits] at read
  exact (Option.some.inj read).symm

/-- Only zero begins with a zero. -/
theorem head_toDigits {n : Nat} (positive : 0 < n) : (Nat.toDigits 10 n).head? ≠ some '0' := by
  induction n using Nat.strongRecOn with
  | ind n ih =>
    by_cases small : n < 10
    · rw [Nat.toDigits_of_lt_base small]
      have digits : ∀ d < 10, 0 < d → [d.digitChar].head? ≠ some '0' := by decide
      exact digits n small positive
    · have leading := ih (n / 10) (by omega) (by omega)
      rw [Nat.toDigits_of_base_le (by decide) (by omega), List.head?_append]
      cases row : Nat.toDigits 10 (n / 10) with
      | nil => exact absurd row Nat.toDigits_ne_nil
      | cons c rest =>
        rw [row] at leading
        exact leading

/-! ## Numbers as they may be written -/

/-- That a text is a number: some digits, perhaps behind a plus sign. -/
inductive Denotes : List Char → Nat → Prop where
  | plain {row : List Char} (filled : row ≠ []) (digits : ∀ c ∈ row, c.isDigit = true) :
      Denotes row (Nat.ofDigitChars 10 row 0)
  | signed {row : List Char} (filled : row ≠ []) (digits : ∀ c ∈ row, c.isDigit = true) :
      Denotes ('+' :: row) (Nat.ofDigitChars 10 row 0)

theorem decimal_unsigned {s : List Char} (unsigned : s.head? ≠ some '+') :
    decimal? s = if s.isEmpty then none else numeral 10 digitValue s := by
  cases s with
  | nil => rfl
  | cons c rest =>
    rw [decimal?]
    intro rest same
    exact unsigned (congrArg List.head? same)

theorem decimal_iff {s : List Char} {n : Nat} : decimal? s = some n ↔ Denotes s n := by
  have filled_row {row : List Char} (filled : row ≠ []) : row.isEmpty = false :=
    List.isEmpty_eq_false_iff.mpr filled
  have row_read {row : List Char}
      (read : (if row.isEmpty then none else numeral 10 digitValue row) = some n) :
      row ≠ [] ∧ (∀ c ∈ row, c.isDigit = true) ∧ Nat.ofDigitChars 10 row 0 = n := by
    split at read
    · cases read
    · rename_i filled
      have digits := digits_of_numeral read
      rw [numeral_row digits] at read
      exact ⟨by simpa using filled, digits, Option.some.inj read⟩
  constructor
  · intro read
    by_cases signed : s.head? = some '+'
    · obtain ⟨row, rfl⟩ := List.head?_eq_some_iff.mp signed
      obtain ⟨filled, digits, rfl⟩ := row_read read
      exact .signed filled digits
    · rw [decimal_unsigned signed] at read
      obtain ⟨filled, digits, rfl⟩ := row_read read
      exact .plain filled digits
  · intro denotes
    cases denotes with
    | signed filled digits =>
      rw [decimal?, numeral_row digits, filled_row filled]
      rfl
    | plain filled digits =>
      have unsigned : s.head? ≠ some '+' := by
        intro signed
        cases digits _ (List.mem_of_mem_head? signed)
      rw [decimal_unsigned unsigned, numeral_row digits, filled_row filled]
      rfl

/-- What is read as a word is a number that fits. -/
theorem word_iff {width n : Nat} {s : List Char} :
    word? width s = some n ↔ Denotes s n ∧ n < 1 <<< width := by
  rw [← decimal_iff, word?]
  cases decimal? s with
  | none => simp
  | some m =>
    simp only [Option.some.injEq]
    constructor
    · intro read
      split at read
      · cases read
        exact ⟨rfl, ‹_›⟩
      · cases read
    · rintro ⟨rfl, fits⟩
      exact if_pos fits

/-! ## Leading zeros -/

theorem toList_padded (width n : Nat) : (padded width n).toList =
    List.replicate (width - (Nat.toDigits 10 n).length) '0' ++ Nat.toDigits 10 n := by
  simp only [padded, String.toList_ofList]

theorem padded_isDigit (width n : Nat) : ∀ c ∈ (padded width n).toList, c.isDigit = true := by
  intro c member
  rw [toList_padded, List.mem_append] at member
  rcases member with zero | digit
  · rw [List.eq_of_mem_replicate zero]
    decide
  · exact toDigits_isDigit n c digit

theorem ofDigitChars_zeros (k : Nat) (row : List Char) :
    Nat.ofDigitChars 10 (List.replicate k '0' ++ row) 0 = Nat.ofDigitChars 10 row 0 := by
  induction k with
  | zero => rfl
  | succ k ih => rwa [List.replicate_succ, List.cons_append, Nat.ofDigitChars_cons]

theorem numeral_padded (width n : Nat) :
    numeral 10 digitValue (padded width n).toList = some n := by
  rw [numeral_row (padded_isDigit width n), toList_padded, ofDigitChars_zeros,
    Nat.ofDigitChars_toDigits (by decide) (by decide)]

theorem length_padded_pos (width n : Nat) : 0 < (padded width n).toList.length := by
  have some_digit : 0 < (Nat.toDigits 10 n).length := Nat.length_toDigits_pos
  rw [toList_padded, List.length_append]
  omega

/-- A number that fits has just as many digits as there is room for. -/
theorem length_padded {width n : Nat} (room : 0 < width) (fits : n < Nat.pow 10 width) :
    (padded width n).toList.length = width := by
  have short := (Nat.length_toDigits_le_iff (b := 10) (n := n) (by decide) room).mpr fits
  rw [toList_padded, List.length_append, List.length_replicate]
  omega

end Wirelog.DigitRows
