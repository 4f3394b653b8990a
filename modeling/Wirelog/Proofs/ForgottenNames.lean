import Wirelog.Proofs.BookLaws
import Wirelog.Proofs.Standing
import Wirelog.Resolution.Flight

/-! Names that are forgotten while lookups of them are under way. Forgetting a name takes effect on
the book at once, and the book has no part in lookups, so what is remembered afterwards came with a
lookup that ended later. That one need not have begun later: a lookup that was under way then still
brings what it finds into the book, and answers go back to it. -/
namespace Wirelog.ForgottenNames
open Resolution BookLaws Standing

variable {d : Desk} {name : String} {e : Entry} {id : Nat}

/-- The lookup with a number, if it is under way. -/
def underWay? (d : Desk) (id : Nat) : Option Flight :=
  d.flights.find? (·.id == id)

/-- That a lookup of a name is under way with a number. -/
def Seeks (d : Desk) (name : String) (id : Nat) : Prop :=
  ∃ f, underWay? d id = some f ∧ keyOf f.host = name

/-- That an action begins the resolution with a number. -/
def Begins (d : Desk) (id : Nat) : Action → Prop
  | .start .. => d.next = id
  | .land .. | .forget _ | .clear | .setLifetime _ | .sweep | .pass _ => False

/-- That an action ends the lookup with a number and what it found is remembered of a name. -/
def Learns (d : Desk) (name : String) (e : Entry) (id : Nat) : Action → Prop
  | .land ended found =>
    ended = id ∧ Seeks d name id ∧ found = .found e.addresses ∧ e.addresses ≠ [] ∧
      d.book.lifetime ≠ 0 ∧ e.since = d.now
  | .start .. | .forget _ | .clear | .setLifetime _ | .sweep | .pass _ => False

/-- That an action loses what is remembered of a name. -/
def Loses (d : Desk) (name : String) (e : Entry) : Action → Prop
  | .land ended found => Seeks d name ended ∧ succeeded found
  | .forget host => keyOf host = name
  | .clear => True
  | .setLifetime lifetime => lifetime = 0
  | .sweep => e.isFresh d.book.lifetime d.now = false
  | .start .. | .pass _ => False

/-- That an action has a name forgotten: this one, or all. -/
def Forgets (name : String) : Action → Prop
  | .forget host => keyOf host = name
  | .clear => True
  | .land .. | .start .. | .setLifetime _ | .sweep | .pass _ => False

/-! ## One action -/

theorem book_land (ended : Nat) (found : Lookup) :
    (d.step (.land ended found)).1.book =
      match underWay? d ended with
      | some f => (d.book.accept d.now f.host f.port found).1
      | none => d.book := by
  simp only [Desk.step, underWay?]
  cases d.flights.find? (·.id == ended) <;> rfl

theorem book_start (host : String) (port : Nat) :
    (d.step (.start host port)).1.book = d.book := by
  simp only [Desk.step]
  split <;> rfl

theorem tidy_step (tidy : Tidy d.book) (action : Action) : Tidy (d.step action).1.book := by
  cases action with
  | start host port => rwa [book_start]
  | land ended found =>
    rw [book_land]
    split
    · exact tidy_accept _ _ _ found tidy
    · exact tidy
  | forget host => exact tidy_forget host tidy
  | clear => exact tidy_clear d.book
  | setLifetime lifetime => exact tidy_setLifetime lifetime tidy
  | sweep => exact tidy_sweep d.now tidy
  | pass span => exact tidy

/-- After an action, an entry is there that it brought, or that was there and is not lost. -/
theorem found_step (tidy : Tidy d.book) (action : Action) :
    (d.step action).1.book.find? name = some e ↔
      (∃ id, Learns d name e id action) ∨ d.book.find? name = some e ∧ ¬ Loses d name e action := by
  cases action with
  | start host port => simp [book_start, Learns, Loses]
  | land ended found =>
    rw [book_land]
    cases flying : underWay? d ended with
    | none => simp [Learns, Loses, Seeks, flying]
    | some f => simp [find_accept tidy, Learns, Loses, Seeks, flying]
  | forget host => simp [Desk.step, find_forget, Learns, Loses]
  | clear => simp [Desk.step, find_clear, Learns, Loses]
  | setLifetime lifetime => simp [Desk.step, find_setLifetime, Learns, Loses]
  | sweep => simp [Desk.step, find_sweep tidy, Learns, Loses]
  | pass span => simp [Desk.step, Learns, Loses]

/-- Each resolution has a number of its own. -/
theorem next_step (d : Desk) (action : Action) :
    (d.step action).1.next = if action matches .start .. then d.next + 1 else d.next := by
  cases action with
  | start host port =>
    simp only [Desk.step]
    split <;> rfl
  | land ended found =>
    simp only [Desk.step]
    split <;> rfl
  | _ => rfl

theorem next_le_step (d : Desk) (action : Action) : d.next ≤ (d.step action).1.next := by
  rw [next_step]
  cases action with
  | start host port => exact Nat.le_succ _
  | _ => exact Nat.le_refl _

/-- A lookup that is under way after an action began with it, under the next number, or was under
way before. -/
theorem seeks_step (action : Action) (flying : Seeks (d.step action).1 name id) :
    (id = d.next ∧ (d.step action).1.next = d.next + 1) ∨ Seeks d name id := by
  obtain ⟨f, flying, named⟩ := flying
  cases action with
  | start host port =>
    simp only [Desk.step] at flying ⊢
    split at flying
    · exact .inr ⟨f, flying, named⟩
    · rw [underWay?, List.find?_cons] at flying
      split at flying
      · rename_i same
        exact .inl ⟨(eq_of_beq same).symm, by simp [*]⟩
      · exact .inr ⟨f, flying, named⟩
  | land ended found =>
    refine .inr ⟨f, ?_, named⟩
    simp only [Desk.step] at flying
    split at flying
    · rw [underWay?, List.find?_filter] at flying
      have spared : id ≠ ended := by
        have kept : f.id ≠ ended ∧ f.id = id := by simpa using List.find?_some flying
        exact kept.2 ▸ kept.1
      rw [underWay?, ← flying]
      refine congrArg d.flights.find? (funext fun g => ?_)
      by_cases same : g.id = id <;> simp [same, spared]
    · exact flying
  | _ => exact .inr ⟨f, flying, named⟩

/-! ## Runs -/

/-- A desk at which nothing is remembered and no lookup is under way. -/
def opened (lifetime now : Time.Span) : Desk :=
  { book := { lifetime }, now }

/-- That the resolution with a number began. -/
def Began (first : Desk) (past : List Action) (id : Nat) : Prop :=
  ∃ before action after, past = before ++ action :: after ∧ Begins (first.run before) id action

/-- That the lookup with a number brought an entry of a name and nothing lost it since. -/
def Behind (first : Desk) (past : List Action) (name : String) (e : Entry) (id : Nat) : Prop :=
  Stands (fun before action => Learns (first.run before) name e id action)
    (fun before action => Loses (first.run before) name e action) past

theorem run_concat (first : Desk) (past : List Action) (action : Action) :
    first.run (past ++ [action]) = ((first.run past).step action).1 := by
  simp only [Desk.run, List.foldl_append, List.foldl_cons, List.foldl_nil]

theorem tidy_run (lifetime now : Time.Span) (past : List Action) :
    Tidy ((opened lifetime now).run past).book := by
  induction past using List.reverseRecOn with
  | nil => exact tidy_blank lifetime
  | append_singleton past action ih =>
    rw [run_concat]
    exact tidy_step ih action

/-- An entry is there just when some lookup is behind it. -/
theorem found_iff_behind (lifetime now : Time.Span) (past : List Action) (name : String)
    (e : Entry) :
    ((opened lifetime now).run past).book.find? name = some e ↔
      ∃ id, Behind (opened lifetime now) past name e id := by
  have stood := iff_stands
    (P := fun past => ((opened lifetime now).run past).book.find? name = some e) nofun
    (fun past action => by
      rw [run_concat]
      exact found_step (tidy_run lifetime now past) action) past
  rw [stood]
  constructor
  · rintro ⟨before, action, after, split, ⟨id, learns⟩, kept⟩
    exact ⟨id, before, action, after, split, learns, kept⟩
  · rintro ⟨id, before, action, after, split, learns, kept⟩
    exact ⟨before, action, after, split, ⟨id, learns⟩, kept⟩

/-- What a lookup brings takes the place of what was there. -/
theorem loses_of_learns {action : Action} (learns : Learns d name e id action) (other : Entry) :
    Loses d name other action := by
  cases action with
  | land ended found =>
    obtain ⟨rfl, seeks, came, some, -⟩ := learns
    refine ⟨seeks, ?_⟩
    rw [came]
    cases addresses : e.addresses with
    | nil => exact absurd addresses some
    | cons ip rest => rfl
  | _ => cases learns

/-- One lookup is behind what is remembered of a name. -/
theorem one_behind {first : Desk} {past : List Action} {other : Entry} {number : Nat}
    (behind : Behind first past name e id) (behind' : Behind first past name other number) :
    id = number := by
  obtain ⟨before, action, learns, learns'⟩ := made_together
    (fun _ _ learns => loses_of_learns learns other) (fun _ _ learns => loses_of_learns learns e)
    behind behind'
  cases action with
  | land ended found => exact learns.1.symm.trans learns'.1
  | _ => cases learns

/-- Numbers are given in the order in which resolutions begin. -/
theorem began_iff (lifetime now : Time.Span) (past : List Action) (id : Nat) :
    Began (opened lifetime now) past id ↔ id < ((opened lifetime now).run past).next := by
  refine (iff_made (P := fun past => id < ((opened lifetime now).run past).next)
    (Nat.not_lt_zero id) (fun past action => ?_) past).symm
  rw [run_concat, next_step]
  cases action with
  | start host port =>
    rw [Begins, or_comm, @eq_comm _ _ id]
    exact Nat.lt_succ_iff_lt_or_eq
  | _ => simp [Begins]

theorem next_le_run (first : Desk) (before after : List Action) :
    (first.run before).next ≤ (first.run (before ++ after)).next := by
  induction after using List.reverseRecOn with
  | nil => exact Nat.le_of_eq (by rw [List.append_nil])
  | append_singleton after action ih =>
    rw [← List.append_assoc, run_concat]
    exact Nat.le_trans ih (next_le_step _ action)

/-- A lookup that is under way has begun. -/
theorem began_of_seeks (lifetime now : Time.Span) (past : List Action)
    (seeks : Seeks ((opened lifetime now).run past) name id) :
    Began (opened lifetime now) past id := by
  rw [began_iff]
  induction past using List.reverseRecOn with
  | nil =>
    obtain ⟨f, none, -⟩ := seeks
    cases none
  | append_singleton past action ih =>
    rw [run_concat] at seeks ⊢
    rcases seeks_step action seeks with ⟨rfl, next⟩ | seeks
    · omega
    · exact Nat.lt_of_lt_of_le (ih seeks) (next_le_step _ action)

/-- A lookup that is under way after some actions, and began before them, was under way before
them. -/
theorem seeks_back (lifetime now : Time.Span) {before : List Action}
    (began : Began (opened lifetime now) before id) (after : List Action)
    (seeks : Seeks ((opened lifetime now).run (before ++ after)) name id) :
    Seeks ((opened lifetime now).run before) name id := by
  induction after using List.reverseRecOn with
  | nil => rwa [List.append_nil] at seeks
  | append_singleton after action ih =>
    rw [← List.append_assoc, run_concat] at seeks
    rcases seeks_step action seeks with ⟨rfl, -⟩ | seeks
    · have older := (began_iff lifetime now before _).mp began
      exact absurd (next_le_run _ before after) (Nat.not_le_of_lt older)
    · exact ih seeks

/-- A lookup that something goes back to has begun. -/
theorem began_of_behind (lifetime now : Time.Span) {past : List Action}
    (behind : Behind (opened lifetime now) past name e id) :
    Began (opened lifetime now) past id := by
  obtain ⟨before, action, after, rfl, learns, -⟩ := behind
  cases action with
  | land ended found =>
    obtain ⟨earlier, first, later, rfl, begins⟩ :=
      began_of_seeks lifetime now before learns.2.1
    exact ⟨earlier, first, later ++ .land ended found :: after, by simp, begins⟩
  | _ => cases learns

theorem loses_of_forgets {action : Action} (forgets : Forgets name action) (d : Desk) (e : Entry) :
    Loses d name e action := by
  cases action with
  | forget host => exact forgets
  | clear => trivial
  | _ => cases forgets

/-- What is remembered of a name after it was forgotten came with a lookup that was still under way
when it ended later. -/
theorem seeks_since {first : Desk} {before after : List Action} {gone : Action}
    (forgets : Forgets name gone) (behind : Behind first (before ++ gone :: after) name e id) :
    ∃ mid, Seeks (first.run (before ++ gone :: mid)) name id := by
  have idle : ¬ Learns (first.run before) name e id gone := by
    cases gone with
    | land => cases forgets
    | _ => exact not_false
  obtain ⟨mid, action, rest, -, learns⟩ :=
    made_after (loses_of_forgets forgets _ e) idle behind
  cases action with
  | land ended found => exact ⟨mid, learns.2.1⟩
  | _ => cases learns

/-! ## What answers go back to -/

/-- That a host is answered at once after some actions, with the addresses that the lookup with a
number found. -/
def Answers (first : Desk) (past : List Action) (host : String) (port : Nat) (r : Resolved)
    (id : Nat) : Prop :=
  literal? host = none ∧
    ((first.run past).step (.start host port)).2 = some ⟨(first.run past).next, .ok r⟩ ∧
    ∃ since, Behind first past (keyOf host) ⟨r.addresses, since⟩ id

/-- That a name, once forgotten, is not answered any more with what earlier lookups find. -/
def ForgottenForGood (first : Desk) (past : List Action) (host : String) : Prop :=
  ∀ before gone after, past = before ++ gone :: after → Forgets (keyOf host) gone →
    ∀ port r id, Answers first past host port r id → ¬ Began first before id

/-- What an answer to a host goes back to after some actions. -/
structure Sources (first : Desk) (past : List Action) (host : String) : Prop where
  /-- Every answer goes back to a lookup of the same name. -/
  found : literal? host = none → ∀ port r,
    ((first.run past).step (.start host port)).2 = some ⟨(first.run past).next, .ok r⟩ →
      ∃ id, Answers first past host port r id ∧ Began first past id
  /-- It goes back to no other one. -/
  one : ∀ port r id other, Answers first past host port r id →
    Answers first past host port r other → id = other
  /-- If the name was forgotten meanwhile, that lookup began before just when it was under way
  then. -/
  older : ∀ before gone after, past = before ++ gone :: after → Forgets (keyOf host) gone →
    ∀ port r id, Answers first past host port r id →
      (Began first before id ↔ Seeks (first.run before) (keyOf host) id)
  /-- So a name stays forgotten if no lookup of it was under way when it was forgotten. -/
  forgotten : (∀ before gone after, past = before ++ gone :: after → Forgets (keyOf host) gone →
      ∀ id, ¬ Seeks (first.run before) (keyOf host) id) →
    ForgottenForGood first past host

theorem start_answered {host : String} {port : Nat} {r : Resolved}
    (answered : (d.step (.start host port)).2 = some ⟨d.next, .ok r⟩) :
    d.book.answer? d.now host port = some r := by
  simp only [Desk.step] at answered
  split at answered
  · cases answered
    assumption
  · cases answered

theorem older_iff_seeks (lifetime now : Time.Span) {before after : List Action} {gone : Action}
    (forgets : Forgets name gone)
    (behind : Behind (opened lifetime now) (before ++ gone :: after) name e id) :
    Began (opened lifetime now) before id ↔ Seeks ((opened lifetime now).run before) name id := by
  constructor
  · intro began
    obtain ⟨mid, seeks⟩ := seeks_since forgets behind
    exact seeks_back lifetime now began (gone :: mid) seeks
  · exact began_of_seeks lifetime now before

/-- Answers go back to lookups that began after the name was last forgotten, or were under way
then. -/
theorem answers_outlive_forgetting (lifetime now : Time.Span) (past : List Action)
    (host : String) : Sources (opened lifetime now) past host := by
  constructor
  case found =>
    intro named port r answered
    obtain ⟨e, there, fresh, rfl⟩ := (answer_named named _ port r).mp (start_answered answered)
    obtain ⟨id, behind⟩ := (found_iff_behind lifetime now past _ e).mp there
    exact ⟨id, ⟨named, answered, e.since, behind⟩, began_of_behind lifetime now behind⟩
  case one =>
    rintro port r id other ⟨-, -, since, behind⟩ ⟨-, -, since', behind'⟩
    exact one_behind behind behind'
  case older =>
    rintro before gone after rfl forgets port r id ⟨-, -, since, behind⟩
    exact older_iff_seeks lifetime now forgets behind
  case forgotten =>
    rintro quiet before gone after rfl forgets port r id ⟨-, -, since, behind⟩ began
    exact quiet before gone after rfl forgets id
      ((older_iff_seeks lifetime now forgets behind).mp began)

/-- A lookup is under way when all names are forgotten, and what it finds is an answer later. -/
theorem forgotten_while_under_way :
    ¬ ForgottenForGood (opened 60 0)
      [.start "h" 80, .clear, .land 0 (.found [.v4 127 0 0 1])] "h" := by
  intro forgotten
  have lookup : Seeks ((opened 60 0).run [.start "h" 80, .clear]) (keyOf "h") 0 :=
    ⟨⟨0, "h", 80⟩, rfl, rfl⟩
  have behind : Behind (opened 60 0) [.start "h" 80, .clear, .land 0 (.found [.v4 127 0 0 1])]
      (keyOf "h") ⟨[.v4 127 0 0 1], 0⟩ 0 :=
    ⟨[.start "h" 80, .clear], _, [], rfl, ⟨rfl, lookup, rfl, by simp, by decide, rfl⟩, by simp⟩
  exact forgotten [.start "h" 80] .clear _ rfl trivial 80
    { addresses := [.v4 127 0 0 1], port := 80, cached := true } 0
    ⟨by decide +kernel, rfl, 0, behind⟩ ⟨[], .start "h" 80, [], rfl, rfl⟩

end Wirelog.ForgottenNames
