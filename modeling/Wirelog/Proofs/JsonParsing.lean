import Wirelog.Proofs.JsonGrammar
import Wirelog.Proofs.JsonLexemes

/-! JSON is read by its grammar. Reading goes from the left and is told how far it may go. It gives
a value just when there is a text of this value, and it takes the whole of this text. -/
namespace Wirelog.JsonParsing
open Json DigitRows JsonLexemes JsonGrammar

/-! ## Texts are read -/

theorem skip_gap (gap : Gap) {s : List Char} (stops : Stops isBlank s) :
    skip (gap.chars ++ s) = s :=
  dropWhile_row gap.blank stops

/-- Blanks prolong no number. -/
theorem stops_gap (gap : Gap) {s : List Char} (stops : Stops prolongs s) :
    Stops prolongs (gap.chars ++ s) := by
  refine stops_append (fun c first => ?_) stops
  have blank := gap.blank c (List.mem_of_mem_head? first)
  simp only [isBlank, Bool.or_eq_true, beq_iff_eq] at blank
  rcases blank with ((rfl | rfl) | rfl) | rfl <;> rfl

/-- That a text is taken as a value in front of all that does not prolong it. It begins neither with
a blank nor with a closing bracket. -/
structure Taken (text : List Char) (j : Json) : Prop where
  opens : ∃ c tail, text = c :: tail ∧ isBlank c = false ∧ c ≠ ']'
  read : ∀ {fuel : Nat} {rest : List Char}, text.length ≤ fuel → Stops prolongs rest →
    value fuel (text ++ rest) = some (j, rest)

theorem stops_taken {text : List Char} {j : Json} (taken : Taken text j) (rest : List Char) :
    Stops isBlank (text ++ rest) := by
  obtain ⟨c, tail, rfl, visible, -⟩ := taken.opens
  exact stops_cons _ visible

theorem item_begins {i : Item} (taken : Taken i.text i.value) (rest : List Char) :
    skip (i.whole ++ rest) = i.text ++ (i.after.chars ++ rest) := by
  rw [Item.whole, List.append_assoc, List.append_assoc]
  exact skip_gap i.before (stops_taken taken _)

theorem item_read {i : Item} (taken : Taken i.text i.value) {fuel : Nat}
    (enough : i.whole.length ≤ fuel) (rest : List Char) (visible : Stops isBlank rest)
    (stops : Stops prolongs rest) :
    value fuel (skip (i.whole ++ rest)) = some (i.value, i.after.chars ++ rest) ∧
      skip (i.after.chars ++ rest) = rest := by
  have short : i.text.length ≤ fuel := by
    simp only [Item.whole, List.length_append] at enough
    omega
  rw [item_begins taken]
  exact ⟨taken.read short (stops_gap i.after stops), skip_gap i.after visible⟩

/-- Each element takes one of the fuel, and the fuel that is left is enough for its text. -/
theorem items_read {is : List Item} (filled : is ≠ []) (each : ∀ i ∈ is, Taken i.text i.value)
    {fuel : Nat} (enough : (commas (is.map Item.whole)).length < fuel) (rest : List Char) :
    items fuel (skip (commas (is.map Item.whole) ++ ']' :: rest)) =
      some (is.map Item.value, rest) := by
  induction is generalizing fuel with
  | nil => exact absurd rfl filled
  | cons i is ih =>
    obtain ⟨first, others⟩ := List.forall_mem_cons.mp each
    obtain ⟨fuel, rfl⟩ : ∃ less, fuel = less + 1 := ⟨fuel - 1, by omega⟩
    cases is with
    | nil =>
      have short : i.whole.length ≤ fuel := Nat.le_of_lt_succ (by simpa [commas] using enough)
      obtain ⟨read, behind⟩ := item_read first short (']' :: rest)
        (stops_cons _ rfl) (stops_cons _ rfl)
      rw [List.map_singleton, commas_one, items, read]
      simp only [behind, List.map_singleton]
    | cons i' is =>
      rw [List.map_cons, List.map_cons, commas_more, ← List.map_cons] at enough ⊢
      simp only [List.length_append, List.length_cons] at enough
      obtain ⟨read, behind⟩ := item_read first (by omega : _ ≤ fuel)
        (',' :: (commas ((i' :: is).map Item.whole) ++ ']' :: rest))
        (stops_cons _ rfl) (stops_cons _ rfl)
      have later := ih (List.cons_ne_nil i' is) others (by omega : _ < fuel)
      rw [List.append_assoc, List.cons_append, items, read]
      simp only [behind, later]
      rfl

/-- A member in front of anything that ends it. -/
theorem member_read {m : Member} (taken : Taken m.item.text m.item.value) {fuel : Nat}
    (enough : m.whole.length ≤ fuel) (rest : List Char) (visible : Stops isBlank rest)
    (stops : Stops prolongs rest) : ∃ tail after beyond,
      skip (m.whole ++ rest) = '"' :: tail ∧ quoted {} tail = some (m.name, after) ∧
        skip after = ':' :: beyond ∧
        value fuel (skip beyond) = some (m.item.value, m.item.after.chars ++ rest) ∧
        skip (m.item.after.chars ++ rest) = rest := by
  have short : m.item.whole.length ≤ fuel := by
    simp only [Member.whole, List.length_append, List.length_cons] at enough
    omega
  obtain ⟨read, behind⟩ := item_read taken short rest visible stops
  refine ⟨m.chars ++ (m.between.chars ++ ':' :: (m.item.whole ++ rest)), _, _, ?_,
    quoted_front m.quotes _, skip_gap m.between (stops_cons _ rfl), read, behind⟩
  rw [Member.whole, List.append_assoc, skip_gap m.before]
  · simp only [List.cons_append, List.append_assoc]
  · exact stops_cons _ rfl

theorem members_read {ms : List Member} (filled : ms ≠ [])
    (each : ∀ m ∈ ms, Taken m.item.text m.item.value) {fuel : Nat}
    (enough : (commas (ms.map Member.whole)).length < fuel) (rest : List Char) :
    members fuel (skip (commas (ms.map Member.whole) ++ '\x7d' :: rest)) =
      some (ms.map Member.pair, rest) := by
  induction ms generalizing fuel with
  | nil => exact absurd rfl filled
  | cons m ms ih =>
    obtain ⟨first, others⟩ := List.forall_mem_cons.mp each
    obtain ⟨fuel, rfl⟩ : ∃ less, fuel = less + 1 := ⟨fuel - 1, by omega⟩
    cases ms with
    | nil =>
      have short : m.whole.length ≤ fuel := Nat.le_of_lt_succ (by simpa [commas] using enough)
      obtain ⟨tail, after, beyond, begins, named, colon, read, behind⟩ :=
        member_read first short ('\x7d' :: rest) (stops_cons _ rfl) (stops_cons _ rfl)
      rw [List.map_singleton, commas_one, begins, members, named]
      simp only [colon, read, behind, List.map_singleton, Member.pair]
    | cons m' ms =>
      rw [List.map_cons, List.map_cons, commas_more, ← List.map_cons] at enough ⊢
      simp only [List.length_append, List.length_cons] at enough
      obtain ⟨tail, after, beyond, begins, named, colon, read, behind⟩ :=
        member_read first (by omega : _ ≤ fuel)
          (',' :: (commas ((m' :: ms).map Member.whole) ++ '\x7d' :: rest))
          (stops_cons _ rfl) (stops_cons _ rfl)
      have later := ih (List.cons_ne_nil m' ms) others (by omega : _ < fuel)
      rw [List.append_assoc, List.cons_append, begins, members, named]
      simp only [colon, read, behind, later]
      rfl

/-- A value that begins with a digit is a number. -/
theorem value_digit (fuel : Nat) {c : Char} (s : List Char) (digit : c.isDigit = true) :
    value (fuel + 1) (c :: s) = magnitude false (c :: s) := by
  unfold value
  split
  case h_8 => rfl
  all_goals
    rename_i same
    cases same
    exact absurd digit (by decide)

/-- Behind an opening bracket, anything that does not close the array is its first element. -/
theorem value_array {fuel : Nat} {s rest : List Char} {xs : List Json}
    (opens : ∃ c tail, skip s = c :: tail ∧ c ≠ ']')
    (read : items fuel (skip s) = some (xs, rest)) :
    value (fuel + 1) ('[' :: s) = some (.arr xs, rest) := by
  obtain ⟨c, tail, begins, inside⟩ := opens
  rw [begins] at read
  rw [value, begins]
  split
  · rename_i same
    cases same
    exact absurd rfl inside
  · rw [read]

/-- Behind an opening brace, a quoted text is the name of the first member. -/
theorem value_object {fuel : Nat} {s rest : List Char} {ms : List (Spelling × Json)}
    (opens : ∃ tail, skip s = '"' :: tail) (read : members fuel (skip s) = some (ms, rest)) :
    value (fuel + 1) ('\x7b' :: s) = some (.obj ms, rest) := by
  obtain ⟨tail, begins⟩ := opens
  rw [begins] at read
  rw [value, begins]
  split
  · rename_i same
    cases same
  · rw [read]

theorem isBlank_digit {c : Char} (digit : c.isDigit = true) : isBlank c = false ∧ c ≠ ']' := by
  constructor
  · simp only [isBlank, Bool.or_eq_false_iff, beq_eq_false_iff_ne]
    refine ⟨⟨⟨?_, ?_⟩, ?_⟩, ?_⟩ <;> rintro rfl <;> cases digit
  · rintro rfl
    cases digit

/-- A text is fuel for at least one value. -/
theorem taken_of_succ {text : List Char} {j : Json}
    (opens : ∃ c tail, text = c :: tail ∧ isBlank c = false ∧ c ≠ ']')
    (read : ∀ fuel rest, text.length ≤ fuel + 1 → Stops prolongs rest →
      value (fuel + 1) (text ++ rest) = some (j, rest)) : Taken text j := by
  refine ⟨opens, fun {fuel rest} enough stops => ?_⟩
  obtain ⟨c, tail, rfl, -⟩ := opens
  obtain ⟨less, rfl⟩ := Nat.exists_eq_add_of_le' enough
  exact read _ rest enough stops

theorem taken_number (negative : Bool) {chars : List Char} {j : Json}
    (read : magnitude negative chars = some (j, [])) :
    Taken ((if negative then ['-'] else []) ++ chars) j := by
  cases negative with
  | true =>
    exact taken_of_succ ⟨'-', _, rfl, rfl, by decide⟩ fun _ _ _ stops => magnitude_front read stops
  | false =>
    obtain ⟨c, tail, rfl, digit⟩ := magnitude_begins read
    refine taken_of_succ ⟨c, tail, rfl, isBlank_digit digit⟩ fun fuel rest _ stops => ?_
    exact (value_digit fuel _ digit).trans (magnitude_front read stops)

theorem taken_str {chars : List Char} {s : Spelling} (read : quoted {} chars = some (s, [])) :
    Taken ('"' :: chars) (.str s) := by
  refine taken_of_succ ⟨'"', _, rfl, rfl, by decide⟩ fun fuel rest _ _ => ?_
  rw [List.cons_append, value, quoted_front read]

theorem taken_arr {is : List Item} (filled : is ≠ []) (each : ∀ i ∈ is, Taken i.text i.value) :
    Taken ('[' :: (commas (is.map Item.whole) ++ [']'])) (.arr (is.map Item.value)) := by
  refine taken_of_succ ⟨'[', _, rfl, rfl, by decide⟩ fun fuel rest enough _ => ?_
  simp only [List.length_cons, List.length_append, List.length_nil] at enough
  have read := items_read filled each (by omega : _ < fuel) rest
  rw [List.cons_append, List.append_assoc, List.singleton_append]
  refine value_array ?_ read
  obtain ⟨i, others, rfl⟩ := List.exists_cons_of_ne_nil filled
  have first := each i List.mem_cons_self
  obtain ⟨more, whole⟩ := commas_first i.whole (others.map Item.whole)
  obtain ⟨c, tail, text, -, inside⟩ := first.opens
  rw [List.map_cons, whole, List.append_assoc, item_begins first, text]
  exact ⟨c, _, rfl, inside⟩

theorem taken_obj {ms : List Member} (filled : ms ≠ [])
    (each : ∀ m ∈ ms, Taken m.item.text m.item.value) :
    Taken ('\x7b' :: (commas (ms.map Member.whole) ++ ['\x7d'])) (.obj (ms.map Member.pair)) := by
  refine taken_of_succ ⟨'\x7b', _, rfl, rfl, by decide⟩ fun fuel rest enough _ => ?_
  simp only [List.length_cons, List.length_append, List.length_nil] at enough
  have read := members_read filled each (by omega : _ < fuel) rest
  rw [List.cons_append, List.append_assoc, List.singleton_append]
  obtain ⟨m, others, rfl⟩ := List.exists_cons_of_ne_nil filled
  obtain ⟨more, whole⟩ := commas_first m.whole (others.map Member.whole)
  refine value_object ?_ read
  rw [List.map_cons, whole, List.append_assoc, Member.whole, List.append_assoc]
  exact ⟨_, skip_gap m.before (stops_cons _ rfl)⟩

/-- A text of a value is read, whatever follows it that does not prolong a number. -/
theorem taken_of_spells {text : List Char} {j : Json} (spells : Spells text j) : Taken text j := by
  induction spells with
  | null => exact taken_of_succ ⟨'n', _, rfl, rfl, by decide⟩ fun _ _ _ _ => rfl
  | yes => exact taken_of_succ ⟨'t', _, rfl, rfl, by decide⟩ fun _ _ _ _ => rfl
  | no => exact taken_of_succ ⟨'f', _, rfl, rfl, by decide⟩ fun _ _ _ _ => rfl
  | number negative read => exact taken_number negative read
  | str read => exact taken_str read
  | noItems gap =>
    refine taken_of_succ ⟨'[', _, rfl, rfl, by decide⟩ fun fuel rest _ _ => ?_
    have closes : Stops isBlank (']' :: rest) := stops_cons rest rfl
    rw [List.cons_append, List.append_assoc, List.singleton_append, value, skip_gap gap closes]
    rfl
  | arr filled _ ih => exact taken_arr filled ih
  | noMembers gap =>
    refine taken_of_succ ⟨'\x7b', _, rfl, rfl, by decide⟩ fun fuel rest _ _ => ?_
    have closes : Stops isBlank ('\x7d' :: rest) := stops_cons rest rfl
    rw [List.cons_append, List.append_assoc, List.singleton_append, value, skip_gap gap closes]
    rfl
  | obj filled _ ih => exact taken_obj filled ih

/-! ## What is read has a text -/

theorem gap_split (s : List Char) : ∃ gap : Gap, s = gap.chars ++ skip s :=
  ⟨⟨s.takeWhile isBlank, fun _ member => List.mem_takeWhile_imp member⟩,
    List.takeWhile_append_dropWhile.symm⟩

/-- What is read with some fuel, as a value, as items up to the closing bracket and as members up to
the closing brace. -/
structure Sound (fuel : Nat) : Prop where
  value : ∀ {s rest : List Char} {j : Json}, value fuel s = some (j, rest) →
    ∃ text, s = text ++ rest ∧ Spells text j
  items : ∀ {s rest : List Char} {xs : List Json}, items fuel s = some (xs, rest) →
    ∃ front is, s = front ++ ']' :: rest ∧ Items front xs is
  members : ∀ {s rest : List Char} {pairs : List (Spelling × Json)},
    members fuel s = some (pairs, rest) →
    ∃ front ms, s = front ++ '\x7d' :: rest ∧ Members front pairs ms

section Step
variable {fuel : Nat} (sound : Sound fuel) {s rest : List Char}
include sound

theorem sound_array {xs : List Json} {tail : List Char}
    (read : items fuel (skip tail) = some (xs, rest)) :
    ∃ text, '[' :: tail = text ++ rest ∧ Spells text (.arr xs) := by
  obtain ⟨gap, split⟩ := gap_split tail
  obtain ⟨front, is, whole, items⟩ := sound.items read
  obtain ⟨is, filled, front', values, each⟩ := items_indented gap items
  refine ⟨'[' :: (gap.chars ++ front ++ [']']), ?_, ?_⟩
  · rw [split, whole]
    simp
  · rw [front', ← values]
    exact .arr filled each

theorem sound_object {pairs : List (Spelling × Json)} {tail : List Char}
    (read : members fuel (skip tail) = some (pairs, rest)) :
    ∃ text, '\x7b' :: tail = text ++ rest ∧ Spells text (.obj pairs) := by
  obtain ⟨gap, split⟩ := gap_split tail
  obtain ⟨front, ms, whole, members⟩ := sound.members read
  obtain ⟨ms, filled, front', values, each⟩ := members_indented gap members
  refine ⟨'\x7b' :: (gap.chars ++ front ++ ['\x7d']), ?_, ?_⟩
  · rw [split, whole]
    simp
  · rw [front', ← values]
    exact .obj filled each

theorem sound_value {j : Json} (read : Json.value (fuel + 1) s = some (j, rest)) :
    ∃ text, s = text ++ rest ∧ Spells text j := by
  unfold Json.value at read
  split at read
  · cases read
    exact ⟨_, rfl, .null⟩
  · cases read
    exact ⟨_, rfl, .yes⟩
  · cases read
    exact ⟨_, rfl, .no⟩
  · rename_i tail
    split at read
    · rename_i spelling behind quotes
      cases read
      obtain ⟨part, rfl, alone⟩ := quoted_alone quotes
      exact ⟨'"' :: part, rfl, .str alone⟩
    · cases read
  · rename_i tail
    obtain ⟨part, rfl, alone⟩ := magnitude_alone read
    exact ⟨'-' :: part, rfl, .number true alone⟩
  · rename_i tail
    split at read
    · rename_i closes
      cases read
      obtain ⟨gap, split⟩ := gap_split tail
      refine ⟨'[' :: (gap.chars ++ [']']), ?_, .noItems gap⟩
      rw [split, closes]
      simp
    · split at read
      · rename_i items
        cases read
        exact sound_array sound items
      · cases read
  · rename_i tail
    split at read
    · rename_i closes
      cases read
      obtain ⟨gap, split⟩ := gap_split tail
      refine ⟨'\x7b' :: (gap.chars ++ ['\x7d']), ?_, .noMembers gap⟩
      rw [split, closes]
      simp
    · split at read
      · rename_i members
        cases read
        exact sound_object sound members
      · cases read
  · obtain ⟨part, rfl, alone⟩ := magnitude_alone read
    exact ⟨part, rfl, .number false alone⟩

theorem sound_items {xs : List Json} (read : items (fuel + 1) s = some (xs, rest)) :
    ∃ front is, s = front ++ ']' :: rest ∧ Items front xs is := by
  rw [items] at read
  split at read
  · cases read
  rename_i x tail first
  obtain ⟨text, rfl, spells⟩ := sound.value first
  obtain ⟨gap, behind⟩ := gap_split tail
  split at read
  · rename_i closes
    cases read
    refine ⟨_, _, ?_, items_one (i := { text, after := gap, value := x }) spells⟩
    rw [behind, closes]
    simp [Item.whole]
  · rename_i tail' comma
    split at read
    · rename_i later
      cases read
      obtain ⟨indent, beyond⟩ := gap_split tail'
      obtain ⟨front, is, whole, items⟩ := sound.items later
      obtain ⟨is, items⟩ := items_indented indent items
      refine ⟨_, _, ?_, items_more (i := { text, after := gap, value := x }) spells items⟩
      rw [behind, comma, beyond, whole]
      simp [Item.whole]
    · cases read
  · cases read

theorem sound_members {pairs : List (Spelling × Json)}
    (read : members (fuel + 1) s = some (pairs, rest)) :
    ∃ front ms, s = front ++ '\x7d' :: rest ∧ Members front pairs ms := by
  unfold Json.members at read
  split at read
  · rename_i quotes
    split at read
    · cases read
    rename_i name afterName named
    obtain ⟨chars, rfl, alone⟩ := quoted_alone named
    obtain ⟨between, nameParts⟩ := gap_split afterName
    split at read
    · rename_i tail colon
      split at read
      · cases read
      rename_i x afterValue first
      obtain ⟨before, tailParts⟩ := gap_split tail
      obtain ⟨text, value, spells⟩ := sound.value first
      obtain ⟨after, valueParts⟩ := gap_split afterValue
      let item : Item := { before, text, after, value := x }
      let m : Member := { chars, name, quotes := alone, between, item }
      split at read
      · rename_i closes
        cases read
        refine ⟨_, _, ?_, members_one (m := m) spells⟩
        rw [nameParts, colon, tailParts, value, valueParts, closes]
        simp [m, item, Member.whole, Item.whole]
      · rename_i afterComma comma
        split at read
        · rename_i later
          cases read
          obtain ⟨indent, commaParts⟩ := gap_split afterComma
          obtain ⟨front, ms, whole, members⟩ := sound.members later
          obtain ⟨ms, members⟩ := members_indented indent members
          refine ⟨_, _, ?_, members_more (m := m) spells members⟩
          rw [nameParts, colon, tailParts, value, valueParts, comma, commaParts, whole]
          simp [m, item, Member.whole, Item.whole]
        · cases read
      · cases read
    · cases read
  · cases read

end Step

/-- What is read has a text, and this text is what was taken. -/
theorem sound (fuel : Nat) : Sound fuel := by
  induction fuel with
  | zero => exact ⟨nofun, nofun, nofun⟩
  | succ fuel ih => exact ⟨sound_value ih, sound_items ih, sound_members ih⟩

/-- A text is read as a value just when it is a document of it. -/
theorem parse_iff {s : String} {j : Json} : parse? s = some j ↔ Document s.toList j := by
  constructor
  · intro read
    simp only [parse?] at read
    split at read
    · rename_i value rest taken
      split at read
      · rename_i ended
        cases read
        obtain ⟨before, parts⟩ := gap_split s.toList
        obtain ⟨after, restParts⟩ := gap_split rest
        obtain ⟨text, whole, spells⟩ := (sound _).value taken
        rw [List.isEmpty_iff.mp ended, List.append_nil] at restParts
        have all : s.toList = ({ before, text, after, value := j } : Item).whole := by
          rw [parts, whole, restParts]
          rfl
        rw [all]
        exact .mk (i := { before, text, after, value := j }) spells
      · cases read
    · cases read
  · generalize chars : s.toList = cs
    rintro ⟨spells⟩
    rename_i i
    obtain ⟨read, behind⟩ := item_read (taken_of_spells spells)
      (Nat.le_succ i.whole.length) [] stops_nil stops_nil
    rw [List.append_nil] at read behind
    simp only [parse?, chars]
    rw [read]
    simp [behind]

end Wirelog.JsonParsing
