import Wirelog.Text.Utf8
import Wirelog.Text.Ascii
import Wirelog.Text.Blank
/-!
Header blocks. A block has one slot per distinct name, in the order in which the names first came;
a slot lists the values of its name in the order in which they were appended. Names are kept in
lower case, so looking one up is exact comparison. Removing a name moves the last slot into the
gap, which is the only way in which slots ever change places.
-/
namespace Wirelog.Http

/-- The characters of a header name or a method. -/
def isTokenChar (c : Char) : Bool :=
  c.isAlphanum || "!#$%&'*+-.^_`|~".toList.contains c

/-- The octets that a header value may hold: tab, and everything from the space up but DEL. -/
def isValueOctet (b : UInt8) : Bool :=
  (32 ≤ b && b != 127) || b == 9

/-- The octets of a value that reads as text: tab and printable ASCII. -/
def isTextOctet (b : UInt8) : Bool :=
  (32 ≤ b && b < 127) || b == 9

/-- The longest header name that is read, in octets. -/
def maxNameLength : Nat := 65535

/-- The name in the form in which blocks keep it; `none` when it is no header name. -/
def headerName? (name : String) : Option String :=
  if !name.isEmpty && name.utf8ByteSize ≤ maxNameLength && name.toList.all isTokenChar then
    some (Text.asciiLower name)
  else none

/-- Whether the octets may stand as a header value. -/
def isHeaderValue (value : Bytes) : Bool :=
  value.octets.all isValueOctet

/-- A value as text: it exists when every octet is printable ASCII or tab. -/
def valueText? (value : Bytes) : Option String :=
  if value.octets.all isTextOctet then
    some (String.ofList (value.octets.map fun b => Char.ofNat b.toNat))
  else none

/-- One name with its values, of which there is at least one. -/
structure Slot where
  /-- The name in lower case. -/
  name : String
  /-- The value that came first. -/
  first : Bytes
  /-- The values appended after it. -/
  rest : List Bytes
deriving DecidableEq

namespace Slot

/-- All values in order. -/
def values (s : Slot) : List Bytes :=
  s.first :: s.rest

end Slot

/-- Moves the last element of a list into the place of a removed one. -/
def fillGap {α : Type} : List α → List α
  | [] => []
  | x :: xs => (x :: xs).getLast (by simp) :: (x :: xs).dropLast

/-- A header block. No two slots have the same name. -/
structure Headers where
  /-- The slots in order. -/
  slots : List Slot := []
  /-- Names are distinct. -/
  names_nodup : (slots.map Slot.name).Nodup := by simp
deriving DecidableEq

namespace Headers

/-- The block without headers. -/
def empty : Headers :=
  { slots := [] }

instance : Inhabited Headers := ⟨empty⟩

/-- The names in slot order. -/
def names (h : Headers) : List String :=
  h.slots.map Slot.name

/-- The slot of a name. -/
def slot? (h : Headers) (name : String) : Option Slot :=
  h.slots.find? (·.name == name)

/-- All values of a name in order. -/
def getAll (h : Headers) (name : String) : List Bytes :=
  match h.slot? name with
  | some s => s.values
  | none => []

/-- The first value of a name. -/
def get? (h : Headers) (name : String) : Option Bytes :=
  (h.slot? name).map Slot.first

/-- The first value of a name as text. -/
def text? (h : Headers) (name : String) : Option String :=
  (h.get? name).bind valueText?

/-- Whether a name has a value. -/
def contains (h : Headers) (name : String) : Bool :=
  (h.slot? name).isSome

/-- Every header, slot by slot. -/
def toList (h : Headers) : List (String × Bytes) :=
  h.slots.flatMap fun s => s.values.map fun v => (s.name, v)

/-- Changing slots but not their names keeps the names. -/
theorem map_name_eq {f : Slot → Slot} (hf : ∀ s, (f s).name = s.name) (l : List Slot) :
    (l.map f).map Slot.name = l.map Slot.name := by
  simp [hf]

/-- A name without a slot is not among the names. -/
theorem not_mem_names {h : Headers} {name : String} (absent : h.contains name = false) :
    name ∉ h.slots.map Slot.name := by
  simp only [contains, slot?, Option.isSome_eq_false_iff, Option.isNone_iff_eq_none,
    List.find?_eq_none] at absent
  intro mem
  obtain ⟨s, hs, rfl⟩ := List.mem_map.1 mem
  exact absent s hs (by simp)

/-- Changes the slot of one name. -/
def onSlot (name : String) (f : Slot → Slot) (s : Slot) : Slot :=
  if s.name = name then { f s with name := s.name } else s

@[simp] theorem name_onSlot (name : String) (f : Slot → Slot) (s : Slot) :
    (onSlot name f s).name = s.name := by
  unfold onSlot
  split <;> rfl

/-- Adds a value after those of its name, in a new last slot when the name is new. -/
def append (h : Headers) (name : String) (value : Bytes) : Headers :=
  if present : h.contains name then
    { slots := h.slots.map (onSlot name fun s => { s with rest := s.rest ++ [value] })
      names_nodup := by
        rw [map_name_eq (name_onSlot name _)]
        exact h.names_nodup }
  else
    { slots := h.slots ++ [⟨name, value, []⟩]
      names_nodup := by
        have absent := not_mem_names (Bool.eq_false_iff.2 present)
        simp only [List.map_append, List.map_cons, List.map_nil, List.nodup_append]
        refine ⟨h.names_nodup, by simp, ?_⟩
        intro a ha b hb
        simp only [List.mem_singleton] at hb
        subst hb
        exact fun eq => absent (eq ▸ ha) }

/-- Gives a name exactly one value. A name that has a slot keeps it; a new one gets a last slot. -/
def insert (h : Headers) (name : String) (value : Bytes) : Headers :=
  if present : h.contains name then
    { slots := h.slots.map (onSlot name fun s => { s with first := value, rest := [] })
      names_nodup := by
        rw [map_name_eq (name_onSlot name _)]
        exact h.names_nodup }
  else
    { slots := h.slots ++ [⟨name, value, []⟩]
      names_nodup := by
        have absent := not_mem_names (Bool.eq_false_iff.2 present)
        simp only [List.map_append, List.map_cons, List.map_nil, List.nodup_append]
        refine ⟨h.names_nodup, by simp, ?_⟩
        intro a ha b hb
        simp only [List.mem_singleton] at hb
        subst hb
        exact fun eq => absent (eq ▸ ha) }

/-- Slots without those of a name; the last slot takes the place of the removed one. -/
def removeSlot (name : String) : List Slot → List Slot
  | [] => []
  | s :: rest => if s.name = name then fillGap rest else s :: removeSlot name rest

theorem perm_fillGap {α : Type} (l : List α) : (fillGap l).Perm l := by
  cases l with
  | nil => exact .refl _
  | cons x xs =>
    unfold fillGap
    have split : (x :: xs).dropLast ++ [(x :: xs).getLast (by simp)] = x :: xs :=
      List.dropLast_concat_getLast (by simp)
    have swap : ([(x :: xs).getLast (by simp)] ++ (x :: xs).dropLast).Perm
        ((x :: xs).dropLast ++ [(x :: xs).getLast (by simp)]) :=
      List.perm_append_comm
    rw [split] at swap
    exact swap

theorem perm_removeSlot (name : String) {l : List Slot} (distinct : (l.map Slot.name).Nodup) :
    (removeSlot name l).Perm (l.filter fun s => !(s.name == name)) := by
  induction l with
  | nil => exact .refl _
  | cons s rest ih =>
    simp only [List.map_cons, List.nodup_cons] at distinct
    unfold removeSlot
    by_cases same : s.name = name
    · have others : rest.filter (fun s => !(s.name == name)) = rest := by
        refine List.filter_eq_self.2 fun t ht => ?_
        have : t.name ≠ name := by
          intro eq
          exact distinct.1 (same ▸ eq ▸ List.mem_map_of_mem ht)
        simp [this]
      simp only [same, if_true, List.filter_cons, beq_self_eq_true, Bool.not_true,
        Bool.false_eq_true, if_false, others]
      exact perm_fillGap rest
    · simp only [same, if_false, List.filter_cons, beq_eq_false_iff_ne.2 same, Bool.not_false,
        if_true]
      exact (ih distinct.2).cons s

/-- Takes a name with all its values out of the block. -/
def remove (h : Headers) (name : String) : Headers :=
  { slots := removeSlot name h.slots
    names_nodup := by
      refine ((perm_removeSlot name h.names_nodup).map Slot.name).nodup_iff.2 ?_
      exact h.names_nodup.sublist ((List.filter_sublist).map _) }

/-- The block of a list of headers, appended in order under lower-case names. -/
def ofList (l : List (String × Bytes)) : Headers :=
  l.foldl (fun h (name, value) => h.append (Text.asciiLower name) value) empty

/-- `header_size`: the size of the block on the wire: each header counts its name, its value, a
colon with a blank, and a line end. -/
def wireSize (h : Headers) : Nat :=
  h.toList.foldr (fun (name, value) n => name.utf8ByteSize + value.size + 4 + n) 0

/-- `content_type`: the media type given by the block: the first `content-type` if it reads as text,
without surrounding blanks; one that is then empty counts as absent. -/
def contentType? (h : Headers) : Option String :=
  ((h.text? "content-type").map Text.trim).filter fun s => !s.isEmpty

end Headers
end Wirelog.Http
