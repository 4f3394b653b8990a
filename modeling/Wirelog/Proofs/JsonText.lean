import Wirelog.Json.Printer
import Wirelog.Proofs.JsonParsing

/-! JSON read back from its text. What is printed for a value is a text of it in either layout, so
it is read as this value. Any value that is read can be printed: a number that is not whole is kept
as it was written. -/
namespace Wirelog.JsonText
open Json DigitRows JsonLexemes JsonGrammar JsonParsing

/-! ## Quoted texts -/

theorem hexValue_hexDigit {n : Nat} (bound : n < 16) : Text.hexValue (hexDigit n) = some n := by
  have digits : ∀ d < 16, Text.hexValue (hexDigit d) = some d := by decide
  exact digits n bound

/-- The escape of a control character spells it. -/
theorem unit_control {c : Char} (control : c.toNat < 32) :
    unit? '0' '0' (hexDigit (c.toNat / 16)) (hexDigit (c.toNat % 16)) = some c.toNat := by
  have high := hexValue_hexDigit (n := c.toNat / 16) (by omega)
  have low := hexValue_hexDigit (n := c.toNat % 16) (by omega)
  have zero : Text.hexValue '0' = some 0 := by decide
  simp only [unit?, Text.numeral, Text.numeral.go, zero, high, low, Option.bind_eq_bind,
    Option.bind_some]
  rw [if_pos (by decide), if_pos (by decide), if_pos (by omega), if_pos (by omega)]
  congr 1
  omega

/-- The escape of a control character is read as that character. -/
theorem quoted_control (q : Quoted) {c : Char} (rest : List Char) (control : c.toNat < 32) :
    quoted q ('\\' :: 'u' :: '0' :: '0' :: hexDigit (c.toNat / 16) :: hexDigit (c.toNat % 16) ::
      rest) = quoted (q.push c) rest := by
  rw [quoted, unit_control control]
  have unit : q.pushUnit c.toNat = q.push c := by
    simp only [Quoted.pushUnit, Char.ofNat_toNat]
    rw [if_neg (by omega), if_neg (by omega)]
  exact congrArg (quoted · rest) unit

theorem quoted_escape (q : Quoted) (c : Char) (rest : List Char) :
    quoted q (escape c ++ rest) = quoted (q.push c) rest := by
  unfold escape
  split
  case h_8 quote backslash _ _ _ _ _ =>
    split
    · rename_i control
      exact quoted_control q rest control
    · rename_i printed
      exact quoted_plain q rest quote backslash printed
  all_goals rfl

theorem quoted_escapes (q : Quoted) (cs rest : List Char) :
    quoted q (cs.flatMap escape ++ rest) = quoted (cs.foldl Quoted.push q) rest := by
  induction cs generalizing q with
  | nil => rfl
  | cons c cs ih => rw [List.flatMap_cons, List.append_assoc, quoted_escape, ih, List.foldl_cons]

/-- Characters that are pushed on whole ones. -/
theorem push_whole (back cs : List Char) :
    cs.foldl Quoted.push { back } = { back := cs.reverse ++ back } := by
  induction cs generalizing back with
  | nil => rfl
  | cons c cs ih =>
    rw [List.foldl_cons, List.reverse_cons, List.append_assoc, List.singleton_append]
    exact ih (c :: back)

/-- What is printed between quotes spells what was to be printed. -/
theorem quoted_quote (s : Spelling) :
    ∃ chars, quote s = '"' :: chars ∧ quoted {} chars = some (s, []) := by
  cases s with
  | none => exact ⟨_, rfl, rfl⟩
  | some s =>
    refine ⟨_, rfl, ?_⟩
    rw [quoted_escapes, push_whole, List.append_nil]
    change some (some (String.ofList s.toList.reverse.reverse), []) = _
    rw [List.reverse_reverse, String.ofList_toList]

/-! ## Numbers -/

/-- A whole number is read back, but for a zero with a sign. -/
theorem magnitude_toDigits {negative : Bool} {n : Nat} {rest : List Char}
    (proper : negative = true → n ≠ 0) (stops : Stops prolongs rest) :
    magnitude negative (Nat.toDigits 10 n ++ rest) =
      some (.int (if negative then -(n : Int) else n), rest) := by
  have split : digits (Nat.toDigits 10 n ++ rest) = (Nat.toDigits 10 n, rest) := by
    rw [digits, takeWhile_row (toDigits_isDigit n) (stops_digits stops),
      dropWhile_row (toDigits_isDigit n) (stops_digits stops)]
  have some_digit : (Nat.toDigits 10 n).isEmpty = false :=
    List.isEmpty_eq_false_iff.mpr Nat.toDigits_ne_nil
  have leading : ((Nat.toDigits 10 n).head? == some '0' &&
      decide (1 < (Nat.toDigits 10 n).length)) = false := by
    by_cases zero : n = 0
    · subst zero
      decide
    · rw [beq_eq_false_iff_ne.mpr (head_toDigits (Nat.pos_of_ne_zero zero)), Bool.false_and]
  have signed : (negative && n == 0) = false := by
    cases negative with
    | false => rfl
    | true => simpa using proper rfl
  simp only [magnitude, split, some_digit, leading, fraction_none (stops_point stops),
    exponent_none stops, numeral_toDigits, signed, Option.bind_eq_bind, Option.bind_some,
    List.isEmpty_nil, Bool.or_self, Bool.not_false, Bool.and_self, Bool.false_eq_true, ↓reduceIte]

theorem spells_int (i : Int) : Spells (Text.intText i).toList (.int i) := by
  unfold Text.intText
  split
  · have nonzero : i.natAbs ≠ 0 := by omega
    have read := magnitude_toDigits (fun _ : true = true => nonzero) stops_nil
    have negated : (-(i.natAbs : Int)) = i := by omega
    rw [if_pos rfl, negated, List.append_nil] at read
    have printed : ("-" ++ Text.natText i.natAbs).toList = ['-'] ++ Nat.toDigits 10 i.natAbs := by
      simp [Text.natText]
    rw [printed]
    exact .number true read
  · have read := magnitude_toDigits (n := i.natAbs) (fun no => absurd no Bool.false_ne_true) stops_nil
    have whole : (i.natAbs : Int) = i := by omega
    rw [if_neg Bool.false_ne_true, whole, List.append_nil] at read
    rw [Text.natText, String.toList_ofList]
    exact .number false read

/-! ## Values -/

/-- That a value has a text: what stands in it for a number that is not whole is written as one. -/
inductive Worded : Json → Prop where
  | null : Worded .null
  | bool (b : Bool) : Worded (.bool b)
  | int (i : Int) : Worded (.int i)
  | real {literal : String} (spells : Spells literal.toList (.real literal)) :
    Worded (.real literal)
  | str (s : Spelling) : Worded (.str s)
  | arr {items : List Json} (parts : ∀ x ∈ items, Worded x) : Worded (.arr items)
  | obj {members : List (Spelling × Json)} (parts : ∀ m ∈ members, Worded m.2) :
    Worded (.obj members)

/-- The blanks in front of a part at a depth. -/
def gapAt (layout : Layout) (depth : Nat) : Gap where
  chars := layout.gap depth
  blank := by
    cases layout with
    | compact => exact List.forall_mem_nil _
    | pretty =>
      refine List.forall_mem_cons.mpr ⟨rfl, fun c member => ?_⟩
      rw [List.eq_of_mem_replicate member]
      rfl

/-- The colon behind a name, and the blanks behind the colon. -/
theorem colon_gap (layout : Layout) : ∃ gap : Gap, layout.colon = ':' :: gap.chars := by
  cases layout with
  | compact => exact ⟨{}, rfl⟩
  | pretty => exact ⟨⟨[' '], List.forall_mem_singleton.mpr rfl⟩, rfl⟩

section
variable (layout : Layout) (depth : Nat)

theorem items_render {x : Json} {xs : List Json}
    (each : ∀ y ∈ x :: xs, Spells (render layout (depth + 1) y) y) :
    ∃ front is, layout.gap (depth + 1) ++ (render layout (depth + 1) x ++
      renderItems layout depth xs) = front ++ [']'] ∧ Items front (x :: xs) is := by
  obtain ⟨first, others⟩ := List.forall_mem_cons.mp each
  induction xs generalizing x with
  | nil =>
    let i : Item := ⟨gapAt layout (depth + 1), render layout (depth + 1) x, gapAt layout depth, x⟩
    refine ⟨_, _, ?_, items_one (i := i) first⟩
    simp [i, Item.whole, renderItems, gapAt]
  | cons y ys ih =>
    obtain ⟨second, rest⟩ := List.forall_mem_cons.mp others
    obtain ⟨front, is, whole, items⟩ := ih others second rest
    let i : Item := ⟨gapAt layout (depth + 1), render layout (depth + 1) x, {}, x⟩
    refine ⟨_, _, ?_, items_more (i := i) first items⟩
    rw [renderItems, whole]
    simp [i, Item.whole, gapAt]

theorem members_render {name : Spelling} {x : Json} {ms : List (Spelling × Json)}
    (each : ∀ m ∈ (name, x) :: ms, Spells (render layout (depth + 1) m.2) m.2) :
    ∃ front members, layout.gap (depth + 1) ++ (quote name ++ (layout.colon ++
      (render layout (depth + 1) x ++ renderMembers layout depth ms))) = front ++ ['\x7d'] ∧
      Members front ((name, x) :: ms) members := by
  obtain ⟨behind, colon⟩ := colon_gap layout
  obtain ⟨first, others⟩ := List.forall_mem_cons.mp each
  induction ms generalizing name x with
  | nil =>
    obtain ⟨chars, printed, quotes⟩ := quoted_quote name
    let i : Item := ⟨behind, render layout (depth + 1) x, gapAt layout depth, x⟩
    let m : Member := ⟨gapAt layout (depth + 1), chars, name, quotes, {}, i⟩
    refine ⟨_, _, ?_, members_one (m := m) first⟩
    simp [m, i, Member.whole, Item.whole, renderMembers, gapAt, printed, colon]
  | cons next ms ih =>
    obtain ⟨chars, printed, quotes⟩ := quoted_quote name
    obtain ⟨second, rest⟩ := List.forall_mem_cons.mp others
    obtain ⟨front, members, whole, spelled⟩ := ih others second rest
    let i : Item := ⟨behind, render layout (depth + 1) x, {}, x⟩
    let m : Member := ⟨gapAt layout (depth + 1), chars, name, quotes, {}, i⟩
    refine ⟨_, _, ?_, members_more (m := m) first spelled⟩
    rw [renderMembers, whole, printed, colon]
    simp [m, i, Member.whole, Item.whole, gapAt]

end

/-- What is printed for a value is a text of it. -/
theorem spells_render {j : Json} (worded : Worded j) (layout : Layout) (depth : Nat) :
    Spells (render layout depth j) j := by
  induction worded generalizing depth with
  | null => exact .null
  | bool b =>
    cases b with
    | false => exact .no
    | true => exact .yes
  | int i => exact spells_int i
  | real spells => exact spells
  | str s =>
    obtain ⟨chars, printed, quotes⟩ := quoted_quote s
    rw [render, printed]
    exact .str quotes
  | @arr xs _ ih =>
    cases xs with
    | nil => exact .noItems {}
    | cons x xs =>
      obtain ⟨front, is, whole, filled, rfl, values, each⟩ :=
        items_render layout depth fun y member => ih y member (depth + 1)
      rw [render, whole, ← values]
      exact .arr filled each
  | @obj ms _ ih =>
    cases ms with
    | nil => exact .noMembers {}
    | cons m ms =>
      obtain ⟨front, members, whole, filled, rfl, pairs, each⟩ :=
        members_render layout depth fun m member => ih m member (depth + 1)
      rw [render, whole, ← pairs]
      exact .obj filled each

/-- What is printed for a value is a document of it. -/
theorem document_render {j : Json} (worded : Worded j) (layout : Layout) :
    Document (String.ofList (render layout 0 j)).toList j := by
  have document := Document.mk (i := { text := render layout 0 j, value := j })
    (spells_render worded layout 0)
  rw [String.toList_ofList]
  simpa [Item.whole] using document

/-- A document is read back from its text. -/
theorem parse_render {j : Json} (worded : Worded j) (layout : Layout) :
    parse? (String.ofList (render layout 0 j)) = some j :=
  parse_iff.mpr (document_render worded layout)

/-! ## Values that are read -/

/-- A number that is not whole is kept as it is written. -/
theorem worded_number {negative : Bool} {chars : List Char} {j : Json}
    (read : magnitude negative chars = some (j, [])) : Worded j := by
  have number := read
  simp only [magnitude] at number
  split at number
  · cases number
  · obtain ⟨⟨frac, behind⟩, point, number⟩ := Option.bind_eq_some_iff.mp number
    obtain ⟨⟨exp, last⟩, mark, number⟩ := Option.bind_eq_some_iff.mp number
    obtain ⟨n, -, number⟩ := Option.bind_eq_some_iff.mp number
    split at number
    · cases number
      exact .int _
    · cases number
      obtain ⟨fraction, -⟩ := fraction_cut point
      obtain ⟨exponent, -⟩ := exponent_cut mark
      have written : (digits chars).1 ++ (frac ++ exp) = chars := by
        rw [List.append_nil] at exponent
        rw [← exponent, ← fraction]
        exact List.takeWhile_append_dropWhile
      -- The literal is the sign and all that was read, so it is a text of the number.
      rw [List.append_assoc, List.append_assoc, written] at read ⊢
      refine .real ?_
      rw [String.toList_ofList]
      exact .number negative read

/-- What is read has a text. -/
theorem worded_of_spells {text : List Char} {j : Json} (spells : Spells text j) : Worded j := by
  induction spells with
  | null => exact .null
  | yes | no => exact .bool _
  | number _ read => exact worded_number read
  | str => exact .str _
  | noItems => exact .arr nofun
  | arr _ _ ih =>
    refine .arr fun x among => ?_
    obtain ⟨i, member, rfl⟩ := List.mem_map.mp among
    exact ih i member
  | noMembers => exact .obj nofun
  | obj _ _ ih =>
    refine .obj fun pair among => ?_
    obtain ⟨m, member, rfl⟩ := List.mem_map.mp among
    exact ih m member

theorem worded_of_document {text : List Char} {j : Json} (document : Document text j) :
    Worded j := by
  cases document with
  | mk spells => exact worded_of_spells spells

end Wirelog.JsonText
