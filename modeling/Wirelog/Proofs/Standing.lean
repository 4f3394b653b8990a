import Mathlib.Data.List.Induction

/-! What one moment of a history brought about and no later one undid. A table that is changed in
place holds what stands in this sense, and that follows from what the latest moment does to it. The
histories here are lists with the latest moment last, and what a moment does may depend on those
before it. -/
namespace Wirelog.Standing

variable {α : Type} {makes undoes : List α → α → Prop} {past : List α} {moment : α}

/-- That a moment of a history brought something about and no later one undid it. -/
def Stands (makes undoes : List α → α → Prop) (past : List α) : Prop :=
  ∃ before moment after, past = before ++ moment :: after ∧ makes before moment ∧
    ∀ mid next rest, after = mid ++ next :: rest → ¬ undoes (before ++ moment :: mid) next

/-- A place in a history is the last one, or a place in the history before the last moment. -/
private theorem place_concat {before after : List α} {last : α}
    (split : past ++ [last] = before ++ moment :: after) :
    (past = before ∧ last = moment ∧ after = []) ∨
      ∃ rest, past = before ++ moment :: rest ∧ after = rest ++ [last] := by
  rcases List.eq_nil_or_concat after with rfl | ⟨rest, other, rfl⟩
  · obtain ⟨same, ⟨⟩⟩ := List.append_inj' split rfl
    exact .inl ⟨same, rfl, rfl⟩
  · rw [List.concat_eq_append, ← List.cons_append, ← List.append_assoc] at split
    obtain ⟨same, ⟨⟩⟩ := List.append_inj' split rfl
    exact .inr ⟨rest, same, List.concat_eq_append⟩

/-- What a moment of a history brought about is brought about by the last moment or was before. -/
theorem made_concat (makes : List α → α → Prop) (past : List α) (moment : α) :
    (∃ before first after, past ++ [moment] = before ++ first :: after ∧ makes before first) ↔
      makes past moment ∨
        ∃ before first after, past = before ++ first :: after ∧ makes before first := by
  constructor
  · rintro ⟨before, first, after, split, made⟩
    rcases place_concat split with ⟨rfl, rfl, -⟩ | ⟨rest, rfl, -⟩
    · exact .inl made
    · exact .inr ⟨before, first, rest, rfl, made⟩
  · rintro (made | ⟨before, first, after, rfl, made⟩)
    · exact ⟨past, moment, [], rfl, made⟩
    · exact ⟨before, first, after ++ [moment], by simp, made⟩

theorem nothing_stands_at_first : ¬ Stands makes undoes [] := by
  rintro ⟨before, moment, after, split, -⟩
  cases before <;> cases split

/-- What stands is brought about by the latest moment, or stood before it and is not undone by
it. -/
theorem stands_concat :
    Stands makes undoes (past ++ [moment]) ↔
      makes past moment ∨ Stands makes undoes past ∧ ¬ undoes past moment := by
  constructor
  · rintro ⟨before, first, after, split, made, kept⟩
    rcases place_concat split with ⟨rfl, rfl, -⟩ | ⟨rest, rfl, rfl⟩
    · exact .inl made
    · refine .inr ⟨⟨before, first, rest, rfl, made, fun mid next later split => ?_⟩, ?_⟩
      · exact kept mid next (later ++ [moment]) (by rw [split, List.append_assoc]; rfl)
      · exact kept rest moment [] rfl
  · rintro (made | ⟨⟨before, first, after, rfl, made, kept⟩, spared⟩)
    · exact ⟨past, moment, [], rfl, made, by simp⟩
    · refine ⟨before, first, after ++ [moment], by simp, made, fun mid next rest split => ?_⟩
      rcases place_concat split with ⟨rfl, rfl, -⟩ | ⟨later, earlier, -⟩
      · exact spared
      · exact kept mid next later earlier

/-- A fact that each moment settles in this way is that something stands. -/
theorem iff_stands {P : List α → Prop} (start : ¬ P [])
    (step : ∀ past moment, P (past ++ [moment]) ↔ makes past moment ∨ P past ∧ ¬ undoes past moment)
    (past : List α) : P past ↔ Stands makes undoes past := by
  induction past using List.reverseRecOn with
  | nil => exact iff_of_false start nothing_stands_at_first
  | append_singleton past moment ih => rw [step, stands_concat, ih]

/-- What nothing undoes stands once it was brought about. -/
theorem iff_made {P : List α → Prop} (start : ¬ P [])
    (step : ∀ past moment, P (past ++ [moment]) ↔ makes past moment ∨ P past) (past : List α) :
    P past ↔ ∃ before moment after, past = before ++ moment :: after ∧ makes before moment := by
  have stood : P past ↔ Stands makes (fun _ _ => False) past :=
    iff_stands start (fun past moment => by rw [step, not_false_eq_true, and_true]) past
  rw [stood]
  constructor
  · rintro ⟨before, moment, after, split, made, -⟩
    exact ⟨before, moment, after, split, made⟩
  · rintro ⟨before, moment, after, split, made⟩
    exact ⟨before, moment, after, split, made, fun _ _ _ _ => not_false⟩

/-- What stands after a moment that undid it was brought about later. -/
theorem made_after {before after : List α} (undone : undoes before moment)
    (idle : ¬ makes before moment) (stands : Stands makes undoes (before ++ moment :: after)) :
    ∃ mid first rest, after = mid ++ first :: rest ∧ makes (before ++ moment :: mid) first := by
  induction after using List.reverseRecOn with
  | nil =>
    rcases stands_concat.mp stands with made | ⟨-, spared⟩
    · exact absurd made idle
    · exact absurd undone spared
  | append_singleton after last ih =>
    rw [← List.cons_append, ← List.append_assoc] at stands
    rcases stands_concat.mp stands with made | ⟨stood, -⟩
    · exact ⟨after, last, [], rfl, made⟩
    · obtain ⟨mid, first, rest, rfl, made⟩ := ih stood
      exact ⟨mid, first, rest ++ [last], by simp, made⟩

/-- Two things that stand, each of which undoes the other when it is brought about, were brought
about by one moment. -/
theorem made_together {makes' undoes' : List α → α → Prop}
    (first : ∀ before moment, makes before moment → undoes' before moment)
    (second : ∀ before moment, makes' before moment → undoes before moment)
    (stands : Stands makes undoes past) (stands' : Stands makes' undoes' past) :
    ∃ before moment, makes before moment ∧ makes' before moment := by
  induction past using List.reverseRecOn with
  | nil => exact absurd stands nothing_stands_at_first
  | append_singleton past moment ih =>
    rcases stands_concat.mp stands with made | ⟨stood, spared⟩
    · rcases stands_concat.mp stands' with made' | ⟨-, spared'⟩
      · exact ⟨past, moment, made, made'⟩
      · exact absurd (first _ _ made) spared'
    · rcases stands_concat.mp stands' with made' | ⟨stood', -⟩
      · exact absurd (second _ _ made') spared
      · exact ih stood stood'

end Wirelog.Standing
