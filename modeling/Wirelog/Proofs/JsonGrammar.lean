import Wirelog.Json.Parser

/-! The grammar of JSON, apart from the way in which a text is read. A text of a value is put
together from texts of its parts, with any blanks between them, and nothing else is one. -/
namespace Wirelog.JsonGrammar
open Json

/-! ## Values -/

/-- Blanks between the parts of a text. -/
structure Gap where
  chars : List Char := []
  blank : ∀ c ∈ chars, isBlank c = true := by simp

/-- A value in an array or behind a name, with the blanks around it. -/
structure Item where
  before : Gap := {}
  text : List Char
  after : Gap := {}
  value : Json

/-- A member of an object: its name as it is quoted, behind the opening quote, and its value. -/
structure Member where
  before : Gap := {}
  chars : List Char
  name : Spelling
  quotes : quoted {} chars = some (name, [])
  between : Gap := {}
  item : Item

/-- The characters of an item, blanks included. -/
def Item.whole (i : Item) : List Char :=
  i.before.chars ++ (i.text ++ i.after.chars)

/-- The characters of a member, blanks included. -/
def Member.whole (m : Member) : List Char :=
  m.before.chars ++ '"' :: (m.chars ++ (m.between.chars ++ ':' :: m.item.whole))

/-- What a member is in an object. -/
def Member.pair (m : Member) : Spelling × Json :=
  (m.name, m.item.value)

/-- Parts with commas between them. -/
def commas (parts : List (List Char)) : List Char :=
  [','].intercalate parts

theorem commas_one (part : List Char) : commas [part] = part :=
  List.intercalate_singleton

theorem commas_more (part next : List Char) (parts : List (List Char)) :
    commas (part :: next :: parts) = part ++ ',' :: commas (next :: parts) := by
  rw [commas, List.intercalate_cons_cons, List.append_assoc]
  rfl

theorem commas_first (part : List Char) (parts : List (List Char)) :
    ∃ more, commas (part :: parts) = part ++ more := by
  cases parts with
  | nil => exact ⟨[], by rw [commas_one, List.append_nil]⟩
  | cons next parts => exact ⟨_, commas_more part next parts⟩

/-- That a text is one of a value, without blanks around it. -/
inductive Spells : List Char → Json → Prop where
  | null : Spells "null".toList .null
  | yes : Spells "true".toList (.bool true)
  | no : Spells "false".toList (.bool false)
  | number (negative : Bool) {chars : List Char} {j : Json}
      (read : magnitude negative chars = some (j, [])) :
      Spells ((if negative then ['-'] else []) ++ chars) j
  | str {chars : List Char} {s : Spelling} (read : quoted {} chars = some (s, [])) :
      Spells ('"' :: chars) (.str s)
  | noItems (gap : Gap) : Spells ('[' :: (gap.chars ++ [']'])) (.arr [])
  | arr {items : List Item} (filled : items ≠ []) (each : ∀ i ∈ items, Spells i.text i.value) :
      Spells ('[' :: (commas (items.map Item.whole) ++ [']'])) (.arr (items.map Item.value))
  | noMembers (gap : Gap) : Spells ('\x7b' :: (gap.chars ++ ['\x7d'])) (.obj [])
  | obj {members : List Member} (filled : members ≠ [])
      (each : ∀ m ∈ members, Spells m.item.text m.item.value) :
      Spells ('\x7b' :: (commas (members.map Member.whole) ++ ['\x7d']))
        (.obj (members.map Member.pair))

/-- That a text is one of a value, perhaps with blanks around it. -/
inductive Document : List Char → Json → Prop where
  | mk {i : Item} (spells : Spells i.text i.value) : Document i.whole i.value

/-! ## Parts in a row -/

/-- Blanks and more blanks. -/
def Gap.append (gap more : Gap) : Gap where
  chars := gap.chars ++ more.chars
  blank := by
    intro c member
    rcases List.mem_append.mp member with first | second
    · exact gap.blank c first
    · exact more.blank c second

theorem commas_append (front part : List Char) (parts : List (List Char)) :
    commas ((front ++ part) :: parts) = front ++ commas (part :: parts) := by
  cases parts with
  | nil => rw [commas_one, commas_one]
  | cons next parts => rw [commas_more, commas_more, List.append_assoc]

/-- Some items of which each is spelled. -/
structure Items (s : List Char) (xs : List Json) (items : List Item) : Prop where
  filled : items ≠ []
  whole : s = commas (items.map Item.whole)
  values : items.map Item.value = xs
  each : ∀ i ∈ items, Spells i.text i.value

/-- Some members of which each is spelled. -/
structure Members (s : List Char) (pairs : List (Spelling × Json)) (members : List Member) :
    Prop where
  filled : members ≠ []
  whole : s = commas (members.map Member.whole)
  pairs : members.map Member.pair = pairs
  each : ∀ m ∈ members, Spells m.item.text m.item.value

theorem items_indented (gap : Gap) {s : List Char} {xs : List Json} {is : List Item}
    (items : Items s xs is) : ∃ is, Items (gap.chars ++ s) xs is := by
  obtain ⟨filled, rfl, rfl, each⟩ := items
  obtain ⟨i, others, rfl⟩ := List.exists_cons_of_ne_nil filled
  obtain ⟨first, rest⟩ := List.forall_mem_cons.mp each
  refine ⟨{ i with before := gap.append i.before } :: others, List.cons_ne_nil _ _, ?_, rfl,
    List.forall_mem_cons.mpr ⟨first, rest⟩⟩
  rw [List.map_cons, ← commas_append, List.map_cons, Item.whole, Item.whole, Gap.append,
    List.append_assoc]

theorem members_indented (gap : Gap) {s : List Char} {pairs : List (Spelling × Json)}
    {ms : List Member} (members : Members s pairs ms) :
    ∃ ms, Members (gap.chars ++ s) pairs ms := by
  obtain ⟨filled, rfl, rfl, each⟩ := members
  obtain ⟨m, others, rfl⟩ := List.exists_cons_of_ne_nil filled
  obtain ⟨first, rest⟩ := List.forall_mem_cons.mp each
  refine ⟨{ m with before := gap.append m.before } :: others, List.cons_ne_nil _ _, ?_, rfl,
    List.forall_mem_cons.mpr ⟨first, rest⟩⟩
  rw [List.map_cons, ← commas_append, List.map_cons, Member.whole, Member.whole, Gap.append,
    List.append_assoc]

theorem items_one {i : Item} (spells : Spells i.text i.value) : Items i.whole [i.value] [i] :=
  ⟨List.cons_ne_nil _ _, (commas_one _).symm, rfl, List.forall_mem_singleton.mpr spells⟩

theorem items_more {i : Item} (spells : Spells i.text i.value) {s : List Char} {xs : List Json}
    {is : List Item} (items : Items s xs is) :
    Items (i.whole ++ ',' :: s) (i.value :: xs) (i :: is) := by
  obtain ⟨filled, rfl, rfl, each⟩ := items
  obtain ⟨next, others, rfl⟩ := List.exists_cons_of_ne_nil filled
  exact ⟨List.cons_ne_nil _ _, (commas_more _ _ _).symm, rfl,
    List.forall_mem_cons.mpr ⟨spells, each⟩⟩

theorem members_one {m : Member} (spells : Spells m.item.text m.item.value) :
    Members m.whole [m.pair] [m] :=
  ⟨List.cons_ne_nil _ _, (commas_one _).symm, rfl, List.forall_mem_singleton.mpr spells⟩

theorem members_more {m : Member} (spells : Spells m.item.text m.item.value) {s : List Char}
    {pairs : List (Spelling × Json)} {ms : List Member} (members : Members s pairs ms) :
    Members (m.whole ++ ',' :: s) (m.pair :: pairs) (m :: ms) := by
  obtain ⟨filled, rfl, rfl, each⟩ := members
  obtain ⟨next, others, rfl⟩ := List.exists_cons_of_ne_nil filled
  exact ⟨List.cons_ne_nil _ _, (commas_more _ _ _).symm, rfl,
    List.forall_mem_cons.mpr ⟨spells, each⟩⟩

end Wirelog.JsonGrammar
