import Mathlib.Data.List.Nodup

/-! Tables kept as lists of values by keys. The first pair of a key counts, so taking the pairs of a
key out and putting a pair at the end changes what is found under this key alone. Where each key
stands once, a table may be thinned out by its values as well. -/
namespace Wirelog.TableLaws

variable {κ α : Type} {name : κ} {l : List (κ × α)}

theorem nodup_keys_filter (keep : κ × α → Bool) (distinct : (l.map Prod.fst).Nodup) :
    ((l.filter keep).map Prod.fst).Nodup :=
  distinct.sublist (List.filter_sublist.map Prod.fst)

variable [BEq κ] [LawfulBEq κ]

/-- Taking a key out leaves the others. -/
theorem find_drop [DecidableEq κ] (key name : κ) (l : List (κ × α)) :
    (l.filter fun x => !(x.1 == key)).find? (·.1 == name) =
      if key = name then none else l.find? (·.1 == name) := by
  rw [List.find?_filter]
  split
  · rename_i same
    subst same
    rw [List.find?_eq_none]
    simp
  · rename_i other
    refine congrArg l.find? (funext fun pair => ?_)
    by_cases hit : pair.1 = name
    · simp [hit, Ne.symm other]
    · simp [hit]

/-- Putting a pair in the place of the pairs of its key leaves the other keys. -/
theorem find_put [DecidableEq κ] (key name : κ) (value : α) (l : List (κ × α)) :
    (l.filter (fun x => !(x.1 == key)) ++ [(key, value)]).find? (·.1 == name) =
      if key = name then some (key, value) else l.find? (·.1 == name) := by
  rw [List.find?_append, find_drop]
  by_cases same : key = name <;> simp [same]

theorem nodup_keys_put (key : κ) (value : α) (distinct : (l.map Prod.fst).Nodup) :
    ((l.filter (fun x => !(x.1 == key)) ++ [(key, value)]).map Prod.fst).Nodup := by
  rw [List.map_append, List.nodup_append]
  refine ⟨nodup_keys_filter _ distinct, List.nodup_singleton _, ?_⟩
  rintro name member _ (same : _ ∈ [key])
  obtain ⟨pair, kept, rfl⟩ := List.mem_map.mp member
  rw [List.mem_singleton.mp same]
  simpa using (List.mem_filter.mp kept).2

/-- Where each key stands once, thinning a table out thins out what is found. -/
theorem find_filter (keep : κ × α → Bool) (distinct : (l.map Prod.fst).Nodup) :
    (l.filter keep).find? (·.1 == name) = (l.find? (·.1 == name)).filter keep := by
  induction l with
  | nil => rfl
  | cons pair rest ih =>
    obtain ⟨absent, distinct⟩ := List.nodup_cons.mp distinct
    by_cases hit : pair.1 = name
    · have later : (rest.filter keep).find? (·.1 == name) = none := by
        rw [List.find?_eq_none]
        intro other member same
        refine absent (List.mem_map.mpr ⟨other, (List.mem_filter.mp member).1, ?_⟩)
        rw [hit, eq_of_beq same]
      cases kept : keep pair <;> simp [kept, hit, later, Option.filter_some]
    · have passed : (pair.1 == name) = false := beq_false_of_ne hit
      cases kept : keep pair <;> simp [kept, passed, ih distinct]

end Wirelog.TableLaws
