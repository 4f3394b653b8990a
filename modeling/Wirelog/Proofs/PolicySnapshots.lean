import Wirelog.Proofs.PolicyHistory

/-! Policies that are kept while others take their place. A call may put another policy in force,
but no call touches a policy that is there, so one that was taken once answers the same questions in
the same way for good: what the calls said that were accepted before it was taken. -/
namespace Wirelog.PolicySnapshots
open Policy PolicyLaws PolicyHistory

/-- The changes among calls. -/
def changesOf (calls : List Call) : List Update :=
  calls.filterMap fun
    | .update change => some change
    | .take => none

/-! ## What calls leave alone -/

/-- A shelf that still has all policies of another one, and all that were taken, in their places. -/
structure Extends (s t : Shelf) : Prop where
  policies : s.all <+: t.all
  taken : s.taken <+: t.taken

theorem extends_after (s : Shelf) (call : Call) : Extends s (s.after call) := by
  cases call with
  | take => exact ⟨List.prefix_rfl, List.prefix_append _ _⟩
  | update change =>
    simp only [Shelf.after, Shelf.step]
    cases s.current.update change with
    | ok next => exact ⟨List.prefix_append _ _, List.prefix_rfl⟩
    | error reason => exact ⟨List.prefix_rfl, List.prefix_rfl⟩

theorem extends_run (s : Shelf) (calls : List Call) : Extends s (s.run calls) := by
  induction calls generalizing s with
  | nil => exact ⟨List.prefix_rfl, List.prefix_rfl⟩
  | cons call rest ih =>
    have first := extends_after s call
    have onward := ih (s.after call)
    exact ⟨first.policies.trans onward.policies, first.taken.trans onward.taken⟩

private theorem found_in_extension {α : Type} {l m : List α} (extended : l <+: m) {k : Nat} {a : α}
    (found : l[k]? = some a) : m[k]? = some a := by
  obtain ⟨rest, rfl⟩ := extended
  rw [List.getElem?_append_left (List.getElem?_eq_some_iff.mp found).1, found]

theorem held_of_extends {s t : Shelf} (extended : Extends s t) {number : Nat} {p : Policy}
    (held : s.held? number = some p) : t.held? number = some p := by
  obtain ⟨place, took, found⟩ := Option.bind_eq_some_iff.mp held
  exact Option.bind_eq_some_iff.mpr
    ⟨place, found_in_extension extended.taken took, found_in_extension extended.policies found⟩

/-! ## The policy in force -/

theorem current_after (s : Shelf) (change : Update) :
    (s.after (.update change)).current = s.current.tryUpdate change := by
  simp only [Shelf.after, Shelf.step, tryUpdate]
  cases s.current.update change <;> rfl

theorem current_run (s : Shelf) (calls : List Call) :
    (s.run calls).current = s.current.changed (changesOf calls) := by
  induction calls generalizing s with
  | nil => rfl
  | cons call rest ih =>
    cases call with
    | take => exact ih (s.after .take)
    | update change =>
      have onward := ih (s.after (.update change))
      rw [current_after] at onward
      exact onward

private theorem held_when_taken (s : Shelf) :
    (s.after .take).held? s.taken.length = some s.current := by
  simp [Shelf.after, Shelf.step, Shelf.held?, Shelf.all]

/-! ## The law of taken policies -/

/-- What holds of a shelf after calls. -/
structure Keeping (calls : List Call) (s : Shelf) : Prop where
  /-- A policy that is taken now answers what the accepted calls say, whatever calls come later. -/
  kept : ∃ number p, (s.step .take).2 = .taken number ∧
    Answers (accepted (changesOf calls)) p ∧
    ∀ later, ((s.after .take).run later).held? number = some p
  /-- Whether a change is accepted is up to the change. -/
  done : ∀ change, (s.step (.update change)).2 = .done ↔ acceptable change
  /-- A refused change changes nothing. -/
  refused : ∀ change reason, (s.step (.update change)).2 = .refused reason →
    s.after (.update change) = s
  /-- One pattern that cannot be read has a whole list refused, wherever it stands. -/
  unread : ∀ patterns status, (∃ pattern ∈ patterns, isPattern pattern = false) →
    ∃ reason, (s.step (.update (.whitelist patterns status))).2 = .refused reason

private theorem reply_update (s : Shelf) (change : Update) :
    if acceptable change then (s.step (.update change)).2 = .done
    else ∃ reason, s.step (.update change) = (s, .refused reason) := by
  have through := goes_through s.current change
  simp only [Shelf.step]
  cases made : s.current.update change with
  | ok next => simp [through.mp ⟨next, made⟩]
  | error reason =>
    rw [if_neg fun fine => ?_]
    · exact ⟨reason, rfl⟩
    · obtain ⟨next, ok⟩ := through.mpr fine
      cases made.symm.trans ok

/-- Policies that are kept answer the history before them, and refused changes leave no trace. -/
theorem snapshots_answer_history (calls : List Call) : Keeping calls (Shelf.run {} calls) := by
  have current : (Shelf.run {} calls).current = made (changesOf calls) := current_run {} calls
  generalize Shelf.run {} calls = s at *
  constructor
  case kept =>
    -- The number leads to a place and the place to a policy; later calls only add behind both.
    refine ⟨s.taken.length, s.current, rfl, current ▸ answers_made _, fun later => ?_⟩
    exact held_of_extends (extends_run _ later) (held_when_taken s)
  case done =>
    intro change
    have reply := reply_update s change
    split at reply
    · simp [*]
    · obtain ⟨reason, reply⟩ := reply
      simp [*]
  case refused =>
    intro change reason refused
    have reply := reply_update s change
    split at reply
    · cases refused.symm.trans reply
    · obtain ⟨_, reply⟩ := reply
      exact congrArg Prod.fst reply
  case unread =>
    intro patterns status ⟨pattern, member, bad⟩
    have reply := reply_update s (.whitelist patterns status)
    have short : acceptable (.whitelist patterns status) = false := by
      rw [acceptable, Bool.and_eq_false_iff]
      exact .inr (List.all_eq_false.mpr ⟨pattern, member, by simp [bad]⟩)
    rw [if_neg (by simp [short])] at reply
    obtain ⟨reason, reply⟩ := reply
    exact ⟨reason, congrArg Prod.snd reply⟩

end Wirelog.PolicySnapshots
