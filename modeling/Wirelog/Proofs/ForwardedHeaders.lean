import Wirelog.Http.HopByHop
import Wirelog.Proofs.DigitRows

/-! What a proxy passes on of a header block. Names are taken out one after another, and slots change
places meanwhile, but each name keeps its slot or loses it as a whole. Which names go is settled by
the block as it came: those of a fixed list, and those that a `connection` header gives. Of several
such headers only the first is read, so what the others give is passed on. -/
namespace Wirelog.ForwardedHeaders
open Text Http

/-! ## Fields of a list -/

/-- A part of a text from one separator to the next, where the ends of the text count as
separators. -/
def Field (sep : Char) (field s : List Char) : Prop :=
  sep ∉ field ∧ sep :: (field ++ [sep]) <:+: sep :: (s ++ [sep])

private theorem field_unique {sep : Char} {a b s : List Char} (first : sep ∉ a) (second : sep ∉ b)
    (leads : a ++ [sep] <+: s) (also : b ++ [sep] <+: s) : a = b := by
  have taken {c : List Char} (free : sep ∉ c) (leads : c ++ [sep] <+: s) :
      s.takeWhile (· != sep) = c := by
    obtain ⟨rest, rfl⟩ := leads
    rw [List.append_assoc]
    refine DigitRows.takeWhile_row (fun x member => ?_) (DigitRows.stops_cons _ (by simp))
    have other : x ≠ sep := fun same => free (same ▸ member)
    simpa using other
  exact (taken first leads).symm.trans (taken second also)

/-- The first field is what leads to the first separator, and the others lie behind one. -/
private theorem splitOn_fields (sep : Char) (s : List Char) :
    ∃ head tail, splitOn sep s = head :: tail ∧ sep ∉ head ∧ head ++ [sep] <+: s ++ [sep] ∧
      ∀ field, field ∈ tail ↔ sep ∉ field ∧ sep :: (field ++ [sep]) <:+: s ++ [sep] := by
  induction s with
  | nil =>
    refine ⟨[], [], rfl, List.not_mem_nil, List.prefix_rfl, fun field => ?_⟩
    refine iff_of_false List.not_mem_nil ?_
    rintro ⟨-, inside⟩
    have short := inside.length_le
    simp at short
  | cons c rest ih =>
    obtain ⟨head, tail, fields, free, leads, others⟩ := ih
    by_cases cut : c = sep
    · subst cut
      refine ⟨[], head :: tail, by simp [splitOn, fields], List.not_mem_nil,
        ⟨rest ++ [c], rfl⟩, fun field => ?_⟩
      rw [List.mem_cons, others, List.cons_append, List.infix_cons_iff,
        List.cons_prefix_cons, and_or_left]
      refine or_congr_left ⟨?_, ?_⟩
      · rintro rfl
        exact ⟨free, rfl, leads⟩
      · rintro ⟨clear, here⟩
        exact field_unique clear free here.2 leads
    · refine ⟨c :: head, tail, by simp [splitOn, fields, cut], ?_, ?_, fun field => ?_⟩
      · simpa [Ne.symm cut] using free
      · simpa using leads
      · have elsewhere : ¬ sep :: (field ++ [sep]) <+: c :: (rest ++ [sep]) :=
          fun here => cut (List.cons_prefix_cons.mp here).1.symm
        rw [others, List.cons_append, List.infix_cons_iff, or_iff_right elsewhere]

theorem mem_splitOn {sep : Char} {field s : List Char} :
    field ∈ splitOn sep s ↔ Field sep field s := by
  obtain ⟨head, tail, fields, free, leads, others⟩ := splitOn_fields sep s
  rw [fields, List.mem_cons, others, Field, List.infix_cons_iff, List.cons_prefix_cons,
    and_or_left]
  refine or_congr_left ⟨?_, ?_⟩
  · rintro rfl
    exact ⟨free, rfl, leads⟩
  · rintro ⟨clear, here⟩
    exact field_unique clear free here.2 leads

/-! ## Names that headers give -/

/-- A value gives a name in a field of its own, whatever the letter case and the blanks around it. -/
def Gives (value : Bytes) (name : String) : Prop :=
  name ≠ "" ∧ ∃ text field, valueText? value = some text ∧ Field ',' field text.toList ∧
    asciiLower (String.ofList (trimList field)) = name

theorem mem_namesIn {list name : String} :
    name ∈ namesIn list ↔ name ≠ "" ∧ ∃ field, Field ',' field list.toList ∧
      asciiLower (String.ofList (trimList field)) = name := by
  simp only [namesIn, List.mem_filter, List.mem_map, mem_splitOn, and_comm, Bool.not_eq_true',
    String.isEmpty_eq_false_iff, ne_eq]

/-- A name concerns one connection only, be it always or because one of these values gives it. -/
def Doomed (values : List Bytes) (name : String) : Prop :=
  name ∈ hopByHopNames ∨ ∃ value ∈ values, Gives value name

/-- The values that are read: the first, if there is one. -/
def readValues (h : Headers) : List Bytes :=
  (h.get? "connection").toList

theorem isHopByHop_iff (h : Headers) (name : String) :
    h.isHopByHop name = true ↔ Doomed (readValues h) name := by
  rw [Headers.isHopByHop, Bool.or_eq_true, or_comm, List.contains_iff_mem, List.contains_iff_mem,
    Doomed, readValues]
  refine or_congr_right ?_
  simp only [Headers.connectionNames, Headers.text?]
  cases h.get? "connection" with
  | none => simp
  | some value =>
    simp only [Option.bind_some, Option.toList_some, List.mem_singleton, exists_eq_left, Gives]
    cases valueText? value with
    | none => simp
    | some text => simp only [mem_namesIn, Option.some.injEq, exists_and_left, exists_eq_left']

/-! ## Taking names out -/

/-- A block with only those slots of another one whose names are not taken out. -/
structure Leaves (h : Headers) (taken : String → Prop) (k : Headers) : Prop where
  /-- Just the other names are left. -/
  names : ∀ name, name ∈ k.names ↔ name ∈ h.names ∧ ¬ taken name
  /-- Each of them has all its values, in their order. -/
  values : ∀ name ∈ k.names, k.getAll name = h.getAll name

theorem slot_iff (h : Headers) (name : String) (s : Slot) :
    h.slot? name = some s ↔ s ∈ h.slots ∧ s.name = name := by
  have distinct := h.names_nodup
  rw [Headers.slot?]
  generalize h.slots = slots at distinct ⊢
  induction slots with
  | nil => simp
  | cons t rest ih =>
    obtain ⟨alone, distinct⟩ := List.nodup_cons.mp distinct
    by_cases hit : t.name = name
    · simp only [List.find?_cons, hit, beq_self_eq_true, Option.some.injEq, List.mem_cons]
      constructor
      · rintro rfl
        exact ⟨.inl rfl, hit⟩
      · rintro ⟨rfl | member, same⟩
        · rfl
        · have again : s.name ∈ rest.map Slot.name := List.mem_map_of_mem member
          exact absurd (hit.trans same.symm ▸ again) alone
    · rw [List.find?_cons_of_neg (by simpa using hit), List.mem_cons]
      refine (ih distinct).trans (and_congr_left fun same => (or_iff_right ?_).symm)
      rintro rfl
      exact hit same

/-- The order of slots is nothing to the values of a name. -/
theorem leaves_of_perm {h k : Headers} {gone : String → Bool}
    (slots : k.slots.Perm (h.slots.filter fun s => !gone s.name)) :
    Leaves h (gone · = true) k := by
  have found (name : String) (s : Slot) :
      k.slot? name = some s ↔ h.slot? name = some s ∧ gone name = false := by
    rw [slot_iff, slot_iff, slots.mem_iff, List.mem_filter, Bool.not_eq_true']
    constructor
    · rintro ⟨⟨member, stays⟩, rfl⟩
      exact ⟨⟨member, rfl⟩, stays⟩
    · rintro ⟨⟨member, rfl⟩, stays⟩
      exact ⟨⟨member, stays⟩, rfl⟩
  have slot_of_name {b : Headers} {name : String} : name ∈ b.names ↔ ∃ s, b.slot? name = some s := by
    simp only [Headers.names, List.mem_map, slot_iff]
  constructor
  case names =>
    intro name
    rw [slot_of_name, slot_of_name, Bool.not_eq_true]
    simp only [found, exists_and_right]
  case values =>
    intro name member
    obtain ⟨s, here⟩ := slot_of_name.mp member
    have there := ((found name s).mp here).1
    simp only [Headers.getAll, here, there]

theorem slots_remove_all (names : List String) (h : Headers) :
    (names.foldl Headers.remove h).slots.Perm
      (h.slots.filter fun s => !names.contains s.name) := by
  induction names generalizing h with
  | nil => exact List.Perm.of_eq (List.filter_eq_self.mpr fun _ _ => rfl).symm
  | cons name rest ih =>
    have first : (h.remove name).slots.Perm (h.slots.filter fun s => !(s.name == name)) :=
      Headers.perm_removeSlot name h.names_nodup
    refine (ih (h.remove name)).trans ((first.filter _).trans ?_)
    rw [List.filter_filter]
    refine List.Perm.of_eq (List.filter_congr fun s _ => ?_)
    rw [List.contains_cons, Bool.not_or, Bool.and_comm]

/-- What is passed on of a block goes by the values that are read. -/
theorem forwarded_leaves (h : Headers) :
    Leaves h (Doomed (readValues h)) h.forwarded := by
  have slots : h.forwarded.slots.Perm (h.slots.filter fun s => !h.isHopByHop s.name) := by
    refine (slots_remove_all _ h).trans (List.Perm.of_eq (List.filter_congr fun s member => ?_))
    have named : s.name ∈ h.names := List.mem_map_of_mem member
    congr 1
    rw [Bool.eq_iff_iff, List.contains_iff_mem, List.mem_filter]
    exact and_iff_right named
  have left := leaves_of_perm slots
  simpa only [isHopByHop_iff] using left

/-- What a proxy passes on of a block. -/
structure PassedOn (h : Headers) : Prop where
  /-- Names of the fixed list and those that the first `connection` header gives are taken out, and
  all others stay as they are. -/
  first : Leaves h (Doomed (readValues h)) h.forwarded
  /-- So names that any of these headers gives are out only if the first gives all of them that
  there are. -/
  any : Leaves h (Doomed (h.getAll "connection")) h.forwarded ↔
    ∀ name ∈ h.names, Doomed (h.getAll "connection") name → Doomed (readValues h) name
  /-- They are if there is one such header at most. -/
  single : (h.getAll "connection").length ≤ 1 →
    Leaves h (Doomed (h.getAll "connection")) h.forwarded

theorem readValues_eq_take (h : Headers) : readValues h = (h.getAll "connection").take 1 := by
  simp only [readValues, Headers.get?, Headers.getAll]
  cases h.slot? "connection" <;> rfl

theorem doomed_mono {some all : List Bytes} (fewer : ∀ value ∈ some, value ∈ all) {name : String}
    (doomed : Doomed some name) : Doomed all name := by
  rcases doomed with always | ⟨value, member, gives⟩
  · exact .inl always
  · exact .inr ⟨value, fewer value member, gives⟩

/-- A proxy takes out what concerns one connection only, as far as the first header that says so
goes, and leaves everything else as it is. -/
theorem passed_on_by_first (h : Headers) : PassedOn h := by
  have first := forwarded_leaves h
  constructor
  case first => exact first
  case any =>
    constructor
    · intro any name there doomed
      refine Classical.byContradiction fun spared => ?_
      exact ((any.names name).mp ((first.names name).mpr ⟨there, spared⟩)).2 doomed
    · intro covered
      refine ⟨fun name => ?_, first.values⟩
      rw [first.names]
      refine and_congr_right fun there => not_congr ⟨?_, covered name there⟩
      rw [readValues_eq_take]
      exact doomed_mono fun value => List.mem_of_mem_take
  case single =>
    intro one
    rw [← List.take_of_length_le one, ← readValues_eq_take]
    exact first

/-- A name that the second `connection` header gives is passed on. -/
theorem second_list_is_passed_on :
    let h : Headers := .ofList
      [("connection", .ofText "x-a"), ("connection", .ofText "X-B"), ("x-b", .ofText "1")]
    "x-b" ∈ h.forwarded.names ∧ ¬ Leaves h (Doomed (h.getAll "connection")) h.forwarded := by
  intro h
  have left : "x-b" ∈ h.forwarded.names := by decide +kernel
  have values : h.getAll "connection" = [.ofText "x-a", .ofText "X-B"] := by decide +kernel
  refine ⟨left, fun any => ((any.names "x-b").mp left).2 (.inr ⟨.ofText "X-B", ?_, ?_⟩)⟩
  · rw [values]
    exact List.mem_cons_of_mem _ (List.mem_singleton_self _)
  · exact ⟨by decide, "X-B", ['X', '-', 'B'], by decide +kernel, ⟨by decide, List.infix_rfl⟩, by rfl⟩

end Wirelog.ForwardedHeaders
