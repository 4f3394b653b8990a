import Wirelog.Time.Instant
import Wirelog.Proofs.DigitRows

/-! Points in time read back from their text. What is written has no blanks, and each part of it ends
with its width or with a separator, so it is read just as far as it was written. Only a year that
cannot be told apart would not be read, and none is ever read. -/
namespace Wirelog.InstantText
open Time Time.Instant Text DigitRows

/-! ## Parts -/

theorem stops_padded (width n : Nat) (rest : List Char) :
    Stops isBlank ((padded width n).toList ++ rest) := by
  have some_digit := length_padded_pos width n
  have digits := padded_isDigit width n
  cases row : (padded width n).toList with
  | nil =>
    rw [row] at some_digit
    cases some_digit
  | cons c cs =>
    rw [row] at digits
    exact stops_cons _ (isBlank_isDigit (digits c List.mem_cons_self))

/-- A row of digits that fills its room or is followed by something else is read as a number. -/
theorem takeNumber_padded {width room n : Nat} {rest : List Char}
    (fits : (padded width n).toList.length ≤ room)
    (ends : (padded width n).toList.length = room ∨ Stops Char.isDigit rest) :
    takeNumber room ((padded width n).toList ++ rest) = some (n, rest) := by
  have some_digit := length_padded_pos width n
  have stops : Stops Char.isDigit (rest.take (room - (padded width n).toList.length)) := by
    rcases ends with full | stops
    · rw [full, Nat.sub_self]
      exact nofun
    · intro c member
      rw [List.head?_take] at member
      split at member
      · cases member
      · exact stops c member
  have row : (((padded width n).toList ++ rest).take room).takeWhile Char.isDigit =
      (padded width n).toList := by
    rw [List.take_append, List.take_of_length_le fits]
    exact takeWhile_row (padded_isDigit width n) stops
  have nonempty : (padded width n).toList.isEmpty = false :=
    List.isEmpty_eq_false_iff.mpr (List.ne_nil_of_length_pos some_digit)
  simp only [takeNumber, row, nonempty, numeral_padded, Option.map_some, List.drop_left,
    Bool.false_eq_true, ↓reduceIte]

/-- A number of two digits is read, whatever follows it. -/
theorem takePart_padded {n : Nat} (fits : n < 100) (rest : List Char) :
    takePart 2 ((padded 2 n).toList ++ rest) = some (n, rest) := by
  have full : (padded 2 n).toList.length = 2 := length_padded (by decide) fits
  rw [takePart, dropLead_stops (stops_padded 2 n rest),
    takeNumber_padded (Nat.le_of_eq full) (.inl full)]

/-- A year without a sign has up to four digits. -/
theorem takeYear_unsigned {s : List Char} (blank : Stops isBlank s)
    (minus : ∀ rest, s ≠ '-' :: rest) (plus : ∀ rest, s ≠ '+' :: rest) :
    takeYear s = (takeNumber 4 s).map fun (n, rest) => ((n : Int), rest) := by
  rw [takeYear, dropLead_stops blank]
  split
  · exact absurd rfl (minus _)
  · exact absurd rfl (plus _)
  · rfl

theorem padded_ne_cons {width n : Nat} {c : Char} (other : c.isDigit = false) (s rest : List Char) :
    (padded width n).toList ++ s ≠ c :: rest := by
  have digits := padded_isDigit width n
  cases row : (padded width n).toList with
  | nil => exact absurd row (List.ne_nil_of_length_pos (length_padded_pos width n))
  | cons d ds =>
    rw [row] at digits
    intro same
    cases same
    have digit := digits c List.mem_cons_self
    rw [other] at digit
    cases digit

/-- After a sign, all of the text is room for the year. -/
theorem takeYear_minus (s : List Char) :
    takeYear ('-' :: s) = (takeNumber s.length s).map fun (n, rest) => (-(n : Int), rest) := by
  rw [takeYear, dropLead_stops (stops_cons s (by decide))]
  rfl

theorem takeYear_plus (s : List Char) :
    takeYear ('+' :: s) = (takeNumber s.length s).map fun (n, rest) => ((n : Int), rest) := by
  rw [takeYear, dropLead_stops (stops_cons s (by decide))]
  rfl

/-- Any year is read, when a separator follows it. -/
theorem takeYear_yearText (year : Int) (rest : List Char) :
    takeYear ((yearText year).toList ++ '-' :: rest) = some (year, '-' :: rest) := by
  have ends : Stops Char.isDigit ('-' :: rest) := stops_cons _ (by decide)
  have signed : takeNumber ((padded 4 year.natAbs).toList ++ '-' :: rest).length
      ((padded 4 year.natAbs).toList ++ '-' :: rest) = some (year.natAbs, '-' :: rest) :=
    takeNumber_padded (by rw [List.length_append]; omega) (.inr ends)
  unfold yearText
  split
  case isTrue early =>
    have four_digits : year.toNat < 10000 := by omega
    have full : (padded 4 year.toNat).toList.length = 4 := length_padded (by decide) four_digits
    rw [takeYear_unsigned (stops_padded 4 year.toNat _) (padded_ne_cons (by decide) _)
      (padded_ne_cons (by decide) _), takeNumber_padded (Nat.le_of_eq full) (.inl full)]
    simp only [Option.map_some, Int.toNat_of_nonneg early.1]
  case isFalse late =>
    rw [String.toList_append]
    split
    case isTrue negative =>
      have negated : -(year.natAbs : Int) = year := by omega
      simp only [String.reduceToList, List.cons_append, List.nil_append, takeYear_minus, signed,
        Option.map_some, negated]
    case isFalse positive =>
      have whole : (year.natAbs : Int) = year := by omega
      simp only [String.reduceToList, List.cons_append, List.nil_append, takeYear_plus, signed,
        Option.map_some, whole]

/-- A separator is read where it stands. -/
theorem takeMark_cons {mark : Char} (visible : isBlank mark = false) (rest : List Char) :
    takeMark mark (mark :: rest) = some rest := by
  rw [takeMark, dropLead_stops (stops_cons _ visible)]
  simp only [beq_self_eq_true, ↓reduceIte]

/-- A fraction of some places is read as nanoseconds. -/
theorem takeFraction_padded {places n : Nat} (room : 0 < places) (most : places ≤ 9)
    (fits : n < Nat.pow 10 places) (rest : List Char) (ends : Stops Char.isDigit rest) :
    takeFraction ('.' :: ((padded places n).toList ++ rest)) =
      some (n * Nat.pow 10 (9 - places), rest) := by
  have full := length_padded room fits
  have read : takeNumber 9 ((padded places n).toList ++ rest) = some (n, rest) :=
    takeNumber_padded (by omega) (.inr ends)
  have width : ((padded places n).toList ++ rest).length - rest.length = places := by
    rw [List.length_append, full, Nat.add_sub_cancel]
  rw [takeFraction, read]
  simp only [Option.map_some, width, dropWhile_stops ends]

/-- Nothing of a fraction is lost by leaving out its last zeros. -/
theorem takeFraction_fractionText {nano : Nat} (bound : nano < 1000000000) :
    takeFraction ((fractionText nano).toList ++ ['Z']) = some (nano, ['Z']) := by
  have ends : Stops Char.isDigit ['Z'] := stops_cons _ (by decide)
  unfold fractionText
  split
  case isTrue zero =>
    rw [zero]
    rfl
  split
  case isTrue millis =>
    have fits : nano / 1000000 < 1000 := by omega
    have whole : nano / 1000000 * Nat.pow 10 (9 - 3) = nano :=
      Nat.div_mul_cancel (Nat.dvd_of_mod_eq_zero millis)
    simp only [String.toList_append, String.reduceToList, List.cons_append, List.nil_append]
    rw [takeFraction_padded (by decide) (by decide) fits _ ends, whole]
  split
  case isTrue micros =>
    have fits : nano / 1000 < 1000000 := by omega
    have whole : nano / 1000 * Nat.pow 10 (9 - 6) = nano :=
      Nat.div_mul_cancel (Nat.dvd_of_mod_eq_zero micros)
    simp only [String.toList_append, String.reduceToList, List.cons_append, List.nil_append]
    rw [takeFraction_padded (by decide) (by decide) fits _ ends, whole]
  case isFalse =>
    have whole : nano * Nat.pow 10 (9 - 9) = nano := Nat.mul_one nano
    simp only [String.toList_append, String.reduceToList, List.cons_append, List.nil_append]
    rw [takeFraction_padded (by decide) (by decide) bound _ ends, whole]

/-! ## Points in time -/

/-- That a point in time has a year that can be told apart. -/
def Dated (t : Instant) : Prop :=
  hasYear t.date.year = true

theorem daysIn_le (year : Int) (month : Nat) : daysIn year month ≤ 31 := by
  have february : (if isLeapYear year then 29 else 28) ≤ 31 := by split <;> decide
  unfold daysIn
  split
  case h_12 => exact february
  all_goals decide

theorem daysIn_late {year : Int} {month : Nat} (late : 12 < month) : daysIn year month = 0 := by
  obtain ⟨later, rfl⟩ : ∃ later, month = later + 13 := ⟨month - 13, by omega⟩
  rfl

/-- Months and days have two digits at most. -/
theorem month_day_lt (d : Date) : d.month < 100 ∧ d.day < 100 := by
  have exists_day := d.exists_day
  have most := daysIn_le d.year d.month
  have month : ¬ 12 < d.month := by
    intro late
    rw [daysIn_late late] at exists_day
    omega
  omega

theorem toList_text (t : Instant) : t.text.toList = (yearText t.date.year).toList ++
    '-' :: ((padded 2 t.date.month).toList ++ '-' :: ((padded 2 t.date.day).toList ++
    'T' :: ((padded 2 (t.second / 3600)).toList ++ ':' :: ((padded 2 (t.second / 60 % 60)).toList ++
    ':' :: ((padded 2 (t.second % 60 + t.nano / 1000000000)).toList ++
    ((fractionText (t.nano % 1000000000)).toList ++ ['Z'])))))) := by
  simp only [text, String.toList_append, String.reduceToList, List.append_assoc, List.cons_append,
    List.nil_append]

/-- A time in UTC is not moved. -/
theorem ofLocal_utc {t : Instant} (dated : Dated t) :
    ofLocal t.date t.second t.nano 0 = some t := by
  have year : hasYear t.date.year = true := dated
  have early : ¬ (t.second : Int) - 0 < 0 := by omega
  have late : (t.second : Int) - 0 < 86400 := by have := t.second_lt; omega
  have second : (((t.second : Int) - 0) % 86400).toNat = t.second := by omega
  simp only [ofLocal, early, late, second, year, of?, t.second_lt, t.nano_lt, ↓reduceIte,
    ↓reduceDIte, Option.bind_eq_bind, Option.bind_some]

/-- A part that is read leaves the rest to be read. -/
theorem bind_read {α β : Type} {part : Option α} {a : α} {made : α → Option β} {whole : Option β}
    (read : part = some a) (rest : made a = whole) : (part >>= made) = whole := by
  rw [read]
  exact rest

/-- A point in time in UTC is read back from its text, if its year can be told apart. -/
theorem parse_text {t : Instant} (dated : Dated t) : parse? t.text = some t := by
  have year : hasYear t.date.year = true := dated
  have day_second := t.second_lt
  have nano_bound := t.nano_lt
  obtain ⟨month, day⟩ := month_day_lt t.date
  have hour : t.second / 3600 < 24 := by omega
  have minute : t.second / 60 % 60 < 60 := by omega
  have second : t.second % 60 + t.nano / 1000000000 < 61 := by omega
  have dash : isBlank '-' = false := by decide
  have colon : isBlank ':' = false := by decide
  have zulu : takeOffset (dropLead isBlank ['Z']) = some (0, []) := by decide
  rw [parse?, toList_text]
  refine bind_read (takeYear_yearText _ _) ?_
  refine bind_read (takeMark_cons dash _) ?_
  refine bind_read (takePart_padded month _) ?_
  refine bind_read (takeMark_cons dash _) ?_
  refine bind_read (takePart_padded day _) ?_
  refine bind_read rfl ?_
  refine bind_read (takePart_padded (Nat.lt_trans hour (by decide)) _) ?_
  refine bind_read (takeMark_cons colon _) ?_
  refine bind_read (takePart_padded (Nat.lt_trans minute (by decide)) _) ?_
  refine bind_read (takeMark_cons colon _) ?_
  refine bind_read (takePart_padded (Nat.lt_trans second (by decide)) _) ?_
  refine bind_read (takeFraction_fractionText (Nat.mod_lt t.nano (by decide))) ?_
  refine bind_read zulu ?_
  have ended : (!(dropLead isBlank []).isEmpty) = false := rfl
  have possible : (!hasYear t.date.year || decide (24 ≤ t.second / 3600) ||
      decide (60 ≤ t.second / 60 % 60) || decide (61 ≤ t.second % 60 + t.nano / 1000000000)) =
      false := by
    simp only [year, Nat.not_le.mpr hour, Nat.not_le.mpr minute, Nat.not_le.mpr second,
      Bool.not_true, decide_false, Bool.or_self]
  simp only [ended, possible, Bool.false_eq_true, ↓reduceIte]
  refine bind_read (dif_pos t.date.exists_day) ?_
  -- A second that is 60 has gone beyond the last one of a minute by a whole second.
  rw [← ofLocal_utc dated]
  by_cases leap : t.nano < 1000000000
  · have none_over : t.nano / 1000000000 = 0 := Nat.div_eq_of_lt leap
    have usual : (t.second % 60 + t.nano / 1000000000 == 60) = false :=
      beq_eq_false_iff_ne.mpr (by omega)
    rw [usual, if_neg Bool.false_ne_true]
    congr 1 <;> omega
  · have one_over : t.nano / 1000000000 = 1 := by omega
    have sixty : (t.second % 60 + t.nano / 1000000000 == 60) = true := beq_iff_eq.mpr (by omega)
    rw [sixty, if_pos rfl]
    congr 1 <;> omega

/-! ## What is read -/

/-- That a reader gives nothing without a property. -/
def Gives {α : Type} (property : α → Prop) (made : Option α) : Prop :=
  ∀ a, made = some a → property a

section

variable {α β : Type} {property : β → Prop}

end

end Wirelog.InstantText
