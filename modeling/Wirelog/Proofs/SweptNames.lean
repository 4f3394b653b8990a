import Wirelog.Proofs.RememberedNames

/-! What sweeps are seen by. A sweep drops what does not count any more, and what does not count is
not answered either, so a book that is swept stays behind one that is not without giving itself
away. But whether a name counts is asked anew each time: one that has come to count no more counts
again once names count for longer, unless it was swept in between. -/
namespace Wirelog.SweptNames
open Resolution BookLaws RememberedNames Standing

variable {s p : Session} {first : Session} {past : List Call} {call : Call} {e : Entry}

/-- What resolutions among some calls come to, in order. -/
def replies (s : Session) : List Call → List Reply
  | [] => []
  | call :: rest => (s.step call).2.toList ++ replies (s.step call).1 rest

/-- The calls that are no sweeps. -/
def unswept (calls : List Call) : List Call :=
  calls.filter fun call => !(call matches .sweep)

/-- That a call after some others is a sweep, and that an entry counts no more then. -/
def Outdates (first : Session) (past : List Call) (e : Entry) : Call → Prop
  | .sweep =>
    let s := first.run (unswept past)
    0 < s.book.lifetime ∧ e.since + s.book.lifetime ≤ s.now
  | .resolve .. | .setLifetime _ | .forget _ | .clear | .pass _ => False

/-- That an entry counted no more at a sweep among some calls. -/
def Outdated (first : Session) (past : List Call) (e : Entry) : Prop :=
  ∃ before call after, past = before ++ call :: after ∧ Outdates first before e call

/-- That a call after some others resolves a name of which an entry counts, had nothing been swept,
though it counted no more at a sweep. -/
def Revives (first : Session) (past : List Call) : Call → Prop
  | .resolve host _ _ _ =>
    let s := first.run (unswept past)
    literal? host = none ∧ ∃ e, s.book.find? (keyOf host) = some e ∧
      e.isFresh s.book.lifetime s.now = true ∧ Outdated first past e
  | .setLifetime _ | .forget _ | .clear | .sweep | .pass _ => False

/-! ## One call on two books -/

/-- A session that is like another one but for entries that were dropped from its book. -/
structure Trails (dropped : Entry → Prop) (p s : Session) : Prop where
  now : s.now = p.now
  lifetime : s.book.lifetime = p.book.lifetime
  found : ∀ name e, s.book.find? name = some e ↔ p.book.find? name = some e ∧ ¬ dropped e

/-- That a host is not answered with what was dropped. -/
def Spares (dropped : Entry → Prop) (p : Session) : Call → Prop
  | .resolve host _ _ _ => literal? host = none → ∀ e, p.book.find? (keyOf host) = some e →
      e.isFresh p.book.lifetime p.now = true → ¬ dropped e
  | .setLifetime _ | .forget _ | .clear | .sweep | .pass _ => True

variable {dropped : Entry → Prop}

theorem answer_same (trails : Trails dropped p s) {host : String} {port : Nat}
    {took : Time.Span} {found : Lookup}
    (spares : Spares dropped p (.resolve host port took found)) :
    s.book.answer? s.now host port = p.book.answer? p.now host port := by
  cases literal : literal? host with
  | some ip => simp only [Book.answer?, literal]
  | none =>
    refine Option.ext fun r => ?_
    rw [answer_named literal, answer_named literal, trails.now, trails.lifetime]
    refine exists_congr fun e => ?_
    rw [trails.found]
    constructor
    · rintro ⟨⟨there, -⟩, fresh, same⟩
      exact ⟨there, fresh, same⟩
    · rintro ⟨there, fresh, same⟩
      exact ⟨⟨there, spares literal e there fresh⟩, fresh, same⟩

theorem accept_result (b c : Book) (now : Time.Span) (host : String) (port : Nat)
    (found : Lookup) : (b.accept now host port found).2 = (c.accept now host port found).2 := by
  rcases found with (_ | ⟨first, rest⟩) | reason <;> rfl

theorem lifetime_accept (b : Book) (now : Time.Span) (host : String) (port : Nat)
    (found : Lookup) : (b.accept now host port found).1.lifetime = b.lifetime := by
  rcases found with (_ | ⟨first, rest⟩) | reason
  · rfl
  · simp only [Book.accept, Book.remember]
    split <;> rfl
  · rfl

/-- A resolution goes the same way on both books if it is not answered with what was dropped. -/
theorem trails_resolve (tidy : Tidy p.book) (behind : Tidy s.book) (trails : Trails dropped p s)
    (new : ∀ e, p.now ≤ e.since → ¬ dropped e) {host : String} {port : Nat} {took : Time.Span}
    {found : Lookup} (spares : Spares dropped p (.resolve host port took found)) :
    Trails dropped (p.step (.resolve host port took found)).1
        (s.step (.resolve host port took found)).1 ∧
      (s.step (.resolve host port took found)).2 = (p.step (.resolve host port took found)).2 := by
  have same := answer_same trails spares
  cases answer : p.book.answer? p.now host port with
  | some r =>
    rw [step_answered answer, step_answered (same.trans answer)]
    exact ⟨trails, rfl⟩
  | none =>
    rw [step_asking ((asks_iff port).mpr answer),
      step_asking ((asks_iff port).mpr (same.trans answer)), trails.now]
    refine ⟨⟨rfl, ?_, fun name e => ?_⟩, ?_⟩
    · simp only [lifetime_accept, trails.lifetime]
    · simp only [find_accept tidy, find_accept behind, trails.found, trails.lifetime]
      constructor
      · rintro (learned | ⟨⟨there, kept⟩, other⟩)
        · refine ⟨.inl learned, new e ?_⟩
          rw [learned.2.2.2.2]
          exact Nat.le_add_right _ _
        · exact ⟨.inr ⟨there, other⟩, kept⟩
      · rintro ⟨learned | ⟨there, other⟩, kept⟩
        · exact .inl learned
        · exact .inr ⟨⟨there, kept⟩, other⟩
    · rw [accept_result s.book p.book]

/-- Any call but a sweep does the same to both books. -/
theorem trails_step (tidy : Tidy p.book) (behind : Tidy s.book) (trails : Trails dropped p s)
    (new : ∀ e, p.now ≤ e.since → ¬ dropped e) (spares : Spares dropped p call)
    (other : call ≠ .sweep) :
    Trails dropped (p.step call).1 (s.step call).1 ∧ (s.step call).2 = (p.step call).2 := by
  cases call with
  | resolve host port took found => exact trails_resolve tidy behind trails new spares
  | setLifetime lifetime =>
    refine ⟨⟨trails.now, ?_, fun name e => ?_⟩, rfl⟩
    · simp only [Session.step, Book.setLifetime]
      split <;> rfl
    · simp only [Session.step, find_setLifetime, trails.found, and_right_comm]
  | forget host =>
    refine ⟨⟨trails.now, trails.lifetime, fun name e => ?_⟩, rfl⟩
    simp only [Session.step, find_forget, trails.found, and_right_comm]
  | clear =>
    refine ⟨⟨trails.now, trails.lifetime, fun name e => ?_⟩, rfl⟩
    simp only [Session.step, find_clear, reduceCtorEq, false_and]
  | sweep => exact absurd rfl other
  | pass span =>
    exact ⟨⟨congrArg (· + span) trails.now, trails.lifetime, trails.found⟩, rfl⟩

/-- A sweep drops what has come to count no more. -/
theorem trails_sweep (tidy : Tidy p.book) (behind : Tidy s.book) (trails : Trails dropped p s) :
    Trails (fun e => (0 < p.book.lifetime ∧ e.since + p.book.lifetime ≤ p.now) ∨ dropped e) p
      (s.step .sweep).1 := by
  refine ⟨trails.now, trails.lifetime, fun name e => ?_⟩
  simp only [Session.step, find_sweep behind, trails.found, trails.lifetime, trails.now, fresh_iff]
  constructor
  · rintro ⟨⟨there, kept⟩, lasting, fresh⟩
    refine ⟨there, ?_⟩
    rintro (⟨-, old⟩ | gone)
    · exact Nat.not_lt.mpr old fresh
    · exact kept gone
  · rintro ⟨there, kept⟩
    have lasting : 0 < p.book.lifetime := by
      refine Nat.pos_of_ne_zero fun none => ?_
      rw [nothing_found tidy none] at there
      cases there
    refine ⟨⟨there, fun gone => kept (.inr gone)⟩, lasting, Nat.lt_of_not_le fun old => ?_⟩
    exact kept (.inl ⟨lasting, old⟩)

/-! ## Runs -/

theorem replies_append (s : Session) (before after : List Call) :
    replies s (before ++ after) = replies s before ++ replies (s.run before) after := by
  induction before generalizing s with
  | nil => rfl
  | cons call rest ih => rw [List.cons_append, replies, ih, replies, List.append_assoc]; rfl

theorem replies_concat (s : Session) (past : List Call) (call : Call) :
    replies s (past ++ [call]) = replies s past ++ ((s.run past).step call).2.toList := by
  rw [replies_append, replies, replies, List.append_nil]

theorem unswept_append (before after : List Call) :
    unswept (before ++ after) = unswept before ++ unswept after :=
  List.filter_append ..

theorem unswept_other (other : call ≠ .sweep) : unswept [call] = [call] := by
  cases call with
  | sweep => exact absurd rfl other
  | _ => rfl

theorem replied (s : Session) (host : String) (port : Nat) (took : Time.Span) (found : Lookup) :
    ∃ r, (s.step (.resolve host port took found)).2 = some r := by
  cases answer : s.book.answer? s.now host port with
  | some r => exact ⟨_, congrArg Prod.snd (step_answered answer)⟩
  | none => exact ⟨_, congrArg Prod.snd (step_asking ((asks_iff port).mpr answer))⟩

theorem length_reply (s p : Session) (call : Call) :
    (s.step call).2.toList.length = (p.step call).2.toList.length := by
  cases call with
  | resolve host port took found =>
    obtain ⟨r, first⟩ := replied s host port took found
    obtain ⟨r', second⟩ := replied p host port took found
    rw [first, second, Option.toList_some, Option.toList_some, List.length_singleton,
      List.length_singleton]
  | _ => rfl

/-- Every resolution has one reply, swept or not. -/
theorem length_replies (s p : Session) (calls : List Call) :
    (replies s calls).length = (replies p (unswept calls)).length := by
  induction calls generalizing s p with
  | nil => rfl
  | cons call rest ih =>
    rw [← List.singleton_append, unswept_append, replies_append, replies_append, List.length_append,
      List.length_append, ih _ (p.run (unswept [call]))]
    congr 1
    by_cases sweep : call = .sweep
    · subst sweep
      rfl
    · rw [unswept_other sweep]
      simp only [replies, List.append_nil]
      exact length_reply s p call

theorem now_le_step (s : Session) (call : Call) : s.now ≤ (s.step call).1.now := by
  cases call with
  | resolve host port took found =>
    simp only [Session.step]
    split
    · exact Nat.le_add_right _ _
    · exact Nat.le_refl _
  | pass span => exact Nat.le_add_right _ _
  | _ => exact Nat.le_refl _

theorem now_le_run (s : Session) (calls : List Call) : s.now ≤ (s.run calls).now := by
  induction calls generalizing s with
  | nil => exact Nat.le_refl _
  | cons call rest ih => exact Nat.le_trans (now_le_step s call) (ih _)

theorem run_append (s : Session) (before after : List Call) :
    s.run (before ++ after) = (s.run before).run after :=
  List.foldl_append

/-- An entry that counted no more at a sweep was made before. -/
theorem since_of_outdated (outdated : Outdated first past e) :
    e.since < (first.run (unswept past)).now := by
  obtain ⟨before, call, after, rfl, outdates⟩ := outdated
  cases call with
  | sweep =>
    obtain ⟨lasting, old⟩ := outdates
    rw [unswept_append, run_append]
    refine Nat.lt_of_lt_of_le ?_ (now_le_run _ _)
    exact Nat.lt_of_lt_of_le (Nat.lt_add_of_pos_right lasting) old
  | _ => cases outdates

theorem outdated_concat :
    Outdated first (past ++ [call]) e ↔ Outdates first past e call ∨ Outdated first past e :=
  made_concat (fun before call => Outdates first before e call) past call

/-- That no call revives a name. -/
def Unrevived (first : Session) (calls : List Call) : Prop :=
  ∀ before call after, calls = before ++ call :: after → ¬ Revives first before call

theorem unrevived_concat :
    Unrevived first (past ++ [call]) ↔ ¬ Revives first past call ∧ Unrevived first past := by
  have either := made_concat (Revives first) past call
  constructor
  · intro none
    refine ⟨fun revives => ?_, fun before other after split revives => ?_⟩
    · obtain ⟨before, other, after, split, revived⟩ := either.mpr (.inl revives)
      exact none before other after split revived
    · obtain ⟨_, _, _, split, revived⟩ := either.mpr (.inr ⟨before, other, after, split, revives⟩)
      exact none _ _ _ split revived
  · rintro ⟨spared, none⟩ before other after split revives
    rcases either.mp ⟨before, other, after, split, revives⟩ with revives | ⟨_, _, _, split, revives⟩
    · exact spared revives
    · exact none _ _ _ split revives

theorem tidy_runs (tidy : Tidy first.book) (calls : List Call) : Tidy (first.run calls).book := by
  induction calls generalizing first with
  | nil => exact tidy
  | cons call rest ih => exact ih (tidy_step tidy call)

/-- Until a name is revived, a run has the replies that it has without its sweeps, and its book is
short of what counted no more at one of them. -/
theorem in_step (tidy : Tidy first.book) (none : Unrevived first past) :
    Trails (Outdated first past) (first.run (unswept past)) (first.run past) ∧
      replies first past = replies first (unswept past) := by
  induction past using List.reverseRecOn with
  | nil =>
    have kept (e : Entry) : ¬ Outdated first [] e := by
      rintro ⟨before, call, after, split, -⟩
      cases before <;> cases split
    exact ⟨⟨rfl, rfl, fun name e => (and_iff_left (kept e)).symm⟩, rfl⟩
  | append_singleton past call ih =>
    obtain ⟨spared, none⟩ := unrevived_concat.mp none
    obtain ⟨trails, same⟩ := ih none
    have tidy := tidy_runs tidy
    by_cases sweep : call = .sweep
    · subst sweep
      have dropped : Outdated first (past ++ [.sweep]) = _ :=
        funext fun e => propext outdated_concat
      rw [dropped, unswept_append, show unswept [.sweep] = [] from rfl, List.append_nil, run_concat,
        replies_concat, ← same]
      exact ⟨trails_sweep (tidy _) (tidy _) trails, List.append_nil _⟩
    · have dropped : Outdated first (past ++ [call]) = Outdated first past := by
        refine funext fun e => propext (outdated_concat.trans (or_iff_right ?_))
        cases call with
        | sweep => exact absurd rfl sweep
        | _ => exact not_false
      have spares : Spares (Outdated first past) (first.run (unswept past)) call := by
        cases call with
        | resolve host port took found =>
          exact fun named e there fresh gone => spared ⟨named, e, there, fresh, gone⟩
        | _ => trivial
      obtain ⟨onward, reply⟩ := trails_step (tidy _) (tidy _) trails
        (fun e new gone => Nat.not_lt.mpr new (since_of_outdated gone)) spares sweep
      rw [dropped, unswept_append, unswept_other sweep, run_concat, run_concat, replies_concat,
        replies_concat, same, reply]
      exact ⟨onward, rfl⟩

/-- The first name that is revived is looked up once more. -/
theorem revival_shows (tidy : Tidy first.book) (none : Unrevived first past)
    (revives : Revives first past call) :
    ((first.run past).step call).2 ≠ ((first.run (unswept past)).step call).2 := by
  obtain ⟨trails, -⟩ := in_step tidy none
  cases call with
  | resolve host port took found =>
    obtain ⟨named, e, there, fresh, gone⟩ := revives
    have remembered := (answer_named named _ port _).mpr ⟨e, there, fresh, rfl⟩
    have unanswered : (first.run past).book.answer? (first.run past).now host port = .none := by
      rw [Option.eq_none_iff_forall_ne_some]
      intro r answer
      obtain ⟨other, found, -⟩ := (answer_named named _ port r).mp answer
      obtain ⟨also, kept⟩ := (trails.found _ other).mp found
      rw [there, Option.some.injEq] at also
      exact kept (also ▸ gone)
    rw [step_answered remembered, step_asking ((asks_iff port).mpr unanswered)]
    intro same
    cases same
  | _ => cases revives

theorem unrevived_of_same (tidy : Tidy first.book)
    (same : replies first past = replies first (unswept past)) : Unrevived first past := by
  induction past using List.reverseRecOn with
  | nil =>
    rintro before call after split
    cases before <;> cases split
  | append_singleton past call ih =>
    rw [unswept_append, replies_append, replies_append] at same
    obtain ⟨earlier, latest⟩ := List.append_inj same (length_replies first first past)
    have none := ih earlier
    refine unrevived_concat.mpr ⟨fun revives => ?_, none⟩
    have other : call ≠ .sweep := by
      rintro rfl
      exact revives
    rw [unswept_other other] at latest
    simp only [replies, List.append_nil] at latest
    refine revival_shows tidy none revives (Option.ext fun reply => ?_)
    rw [← Option.mem_toList, latest, Option.mem_toList]

theorem lifetime_step (s : Session) (call : Call) :
    (s.step call).1.book.lifetime = s.book.lifetime ∨
      call = .setLifetime (s.step call).1.book.lifetime := by
  cases call with
  | resolve host port took found =>
    left
    cases answer : s.book.answer? s.now host port with
    | some r => rw [step_answered answer]
    | none => rw [step_asking ((asks_iff port).mpr answer)]; exact lifetime_accept ..
  | setLifetime lifetime =>
    right
    simp only [Session.step, Book.setLifetime]
    split
    · rename_i none
      rw [none]
    · rfl
  | _ => exact .inl rfl

/-- How long names count after some calls was said by one of them, unless it is as before. -/
theorem lifetime_run (s : Session) (calls : List Call) :
    (s.run calls).book.lifetime = s.book.lifetime ∨
      .setLifetime (s.run calls).book.lifetime ∈ calls := by
  induction calls generalizing s with
  | nil => exact .inl rfl
  | cons call rest ih =>
    change ((s.step call).1.run rest).book.lifetime = _ ∨
      .setLifetime ((s.step call).1.run rest).book.lifetime ∈ call :: rest
    rcases ih (s.step call).1 with same | said
    · rw [same]
      exact (lifetime_step s call).imp_right fun said => List.mem_cons.mpr (.inl said.symm)
    · exact .inr (List.mem_cons_of_mem _ said)

/-! ## Sweeps -/

/-- That names never count for longer than at a sweep before. -/
def Shortening (first : Session) (calls : List Call) : Prop :=
  ∀ before after, calls = before ++ .sweep :: after → ∀ lifetime,
    .setLifetime lifetime ∈ after → lifetime ≤ (first.run (unswept before)).book.lifetime

/-- A name can only be revived when names have come to count for longer. -/
theorem unrevived_of_shortening {calls : List Call} (shortening : Shortening first calls) :
    Unrevived first calls := by
  rintro past call rest rfl revives
  cases call with
  | resolve host port took found =>
    obtain ⟨-, e, -, fresh, before, other, after, rfl, outdates⟩ := revives
    cases other with
    | sweep =>
      obtain ⟨-, old⟩ := outdates
      obtain ⟨-, fresh⟩ := (fresh_iff e _ _).mp fresh
      have later := now_le_run (first.run (unswept before)) (unswept (.sweep :: after))
      rw [unswept_append, run_append] at fresh
      have longer := Nat.lt_of_le_of_lt (Nat.le_trans old later) fresh
      have longer := Nat.lt_of_add_lt_add_left longer
      rcases lifetime_run (first.run (unswept before)) (unswept (.sweep :: after)) with same | said
      · exact absurd same (Nat.ne_of_gt longer)
      · have said := List.mem_of_mem_filter said
        refine absurd longer (Nat.not_lt.mpr (shortening before _ (List.append_assoc ..) _ ?_))
        simpa using Or.inl said
    | _ => cases outdates
  | _ => cases revives

/-- What sweeps among some calls are seen by. -/
structure Sweeping (first : Session) (calls : List Call) : Prop where
  /-- Resolutions come to the same with and without them just when none revives a name. -/
  unseen : replies first calls = replies first (unswept calls) ↔ Unrevived first calls
  /-- So it is where names never count for longer than at a sweep before. -/
  shortening : Shortening first calls → replies first calls = replies first (unswept calls)

/-- Sweeps are seen by nothing but names that count again. -/
theorem sweeps_show_in_revivals (lifetime now : Time.Span) (calls : List Call) :
    Sweeping (opened lifetime now) calls := by
  have tidy : Tidy (opened lifetime now).book := tidy_blank lifetime
  constructor
  case unseen => exact ⟨unrevived_of_same tidy, fun none => (in_step tidy none).2⟩
  case shortening => exact fun shortening => (in_step tidy (unrevived_of_shortening shortening)).2

/-- A name that counted for twenty is swept after forty, and then names count for sixty. -/
theorem longer_lifetime_shows_sweep :
    let calls : List Call := [
      .resolve "h" 80 0 (.found [.v4 127 0 0 1]), .pass 40, .sweep, .setLifetime 60,
      .resolve "h" 80 0 (.found [.v4 127 0 0 1])]
    replies (opened 20 0) calls ≠ replies (opened 20 0) (unswept calls) := by
  intro calls same
  exact absurd (congrArg (List.map Reply.lookup) same) (by decide +kernel)

end Wirelog.SweptNames
