import Wirelog.Http.Headers

/-! Giving a name one value. The name has this value and no other afterwards, whether it was there
before or not, and all other names have what they had. Names keep their order, and a new one comes
behind them. So where many names are given one value each, the order in which this happens does not
matter to the values. -/
namespace Wirelog.HeaderLaws
open Http

private theorem name_of_found {slots : List Slot} {name : String} {s : Slot}
    (found : slots.find? (·.name == name) = some s) : s.name = name := by
  have hit := List.find?_some found
  exact eq_of_beq hit

/-- The slot of a name is put in its place, and the slots of other names are left alone. -/
theorem slot_insert (h : Headers) (name : String) (value : Bytes) (other : String) :
    (h.insert name value).slot? other =
      if other = name then some ⟨name, value, []⟩ else h.slot? other := by
  unfold Headers.insert Headers.slot?
  split
  · rename_i present
    let put := Headers.onSlot name fun s => { s with first := value, rest := [] }
    have named : ((·.name == other) ∘ put) = (·.name == other) := by
      funext s
      rw [Function.comp_apply, Headers.name_onSlot]
    change (h.slots.map put).find? _ = _
    rw [List.find?_map, named]
    split
    · rename_i same
      subst same
      obtain ⟨s, found⟩ := Option.isSome_iff_exists.mp present
      rw [Headers.slot?] at found
      simp only [found, Option.map_some, put, Headers.onSlot, name_of_found found, ↓reduceIte]
    · rename_i apart
      cases there : h.slots.find? (·.name == other) with
      | none => rfl
      | some t =>
        simp only [Option.map_some, put, Headers.onSlot, name_of_found there, apart, ↓reduceIte]
  · rename_i absent
    rw [List.find?_append]
    split
    · rename_i same
      subst same
      have unfound : h.slots.find? (·.name == other) = none := by
        simpa [Headers.contains, Headers.slot?] using absent
      simp [unfound]
    · rename_i apart
      have passed : (name == other) = false := beq_false_of_ne (Ne.symm apart)
      simp [passed]

/-- A block beside one that differs in one name alone: here the name has this one value. -/
structure Overwrites (name : String) (value : Bytes) (before after : Headers) : Prop where
  own : after.getAll name = [value]
  others : ∀ other ≠ name, after.getAll other = before.getAll other
  order : before.names <+: after.names

theorem overwrites_insert (h : Headers) (name : String) (value : Bytes) :
    Overwrites name value h (h.insert name value) := by
  constructor
  case own => simp only [Headers.getAll, slot_insert, ↓reduceIte, Slot.values]
  case others =>
    intro other apart
    simp only [Headers.getAll, slot_insert, apart, ↓reduceIte]
  case order =>
    unfold Headers.insert Headers.names
    split
    · refine ⟨[], ?_⟩
      rw [List.append_nil]
      exact (Headers.map_name_eq (Headers.name_onSlot name _) h.slots).symm
    · rw [List.map_append]
      exact List.prefix_append _ _

end Wirelog.HeaderLaws
