import Wirelog.Handling.Interceptor

/-! Each operation of a recorder as a change of the entries of its logs. A log that was never opened
has no entries, so opening one changes nothing here; pages, comments and flags do not appear at all.
Only a begin and a counted event move this view, each in one log. -/
namespace Wirelog.RecorderLaws
open Recording

/-- The entries of a log by its number. -/
def entriesOf (r : Recorder) (n : Nat) : List Archive.Entry :=
  ((r.log? n).map OpenLog.entries).getD []

/-- Two recorders whose logs have the same entries. -/
def SameEntries (r s : Recorder) : Prop :=
  ∀ n, entriesOf r n = entriesOf s n

theorem log_onLog (r : Recorder) (n m : Nat) (f : OpenLog → OpenLog) :
    (r.onLog n f).log? m = if n = m then (r.log? m).map f else r.log? m := by
  simp only [Recorder.onLog, Recorder.log?, List.getElem?_modify]
  by_cases same : n = m
  · simp [same]
  · simp [same]

theorem log_onEntry_ne (r : Recorder) (place : Place) (f : Archive.Entry → Archive.Entry) {m : Nat}
    (other : place.log ≠ m) : (r.onEntry place f).log? m = r.log? m := by
  rw [Recorder.onEntry, log_onLog, if_neg other]

/-- The running log is a log of the recorder. -/
theorem running_is_log {r : Recorder} {n : Nat} (running : r.runningLog? = some n) :
    ∃ log, r.log? n = some log ∧ r.current? = some log ∧ n + 1 = r.logs.length := by
  have last : n + 1 = r.logs.length := by
    simp only [Recorder.runningLog?] at running
    split at running
    · rename_i open'
      have length := open'.2
      cases running
      omega
    · cases running
  have bound : n < r.logs.length := by omega
  have found : r.log? n = some r.logs[n] := List.getElem?_eq_getElem bound
  exact ⟨r.logs[n], found, by simp [Recorder.current?, running, found], last⟩

theorem current_of_stopped {r : Recorder} (stopped : r.runningLog? = none) : r.current? = none := by
  simp [Recorder.current?, stopped]

theorem entries_of_log {r : Recorder} {n : Nat} {log : OpenLog} (found : r.log? n = some log) :
    entriesOf r n = log.entries := by
  simp [entriesOf, found]

theorem entry_at (r : Recorder) (place : Place) :
    r.entry? place = (entriesOf r place.log)[place.entry]? := by
  cases found : r.log? place.log with
  | none => simp [Recorder.entry?, entriesOf, found]
  | some log => simp [Recorder.entry?, entriesOf, found]

/-! ## Which log is active -/

/-- Two recorders with as many logs, of which the last is active in both or in none. -/
def SameOutline (r s : Recorder) : Prop :=
  r.logs.length = s.logs.length ∧ r.active = s.active

theorem running_of_outline {r s : Recorder} (same : SameOutline r s) :
    r.runningLog? = s.runningLog? := by
  simp only [Recorder.runningLog?, same.1, same.2]

theorem outline_onLog (r : Recorder) (n : Nat) (f : OpenLog → OpenLog) :
    SameOutline (r.onLog n f) r :=
  ⟨List.length_modify .., rfl⟩

theorem outline_newPage {r s : Recorder} {now : Time.Instant} {ref title : Option String}
    {id : String} (ok : r.newPage now ref title = .ok (s, id)) : SameOutline s r := by
  simp only [Recorder.newPage] at ok
  split at ok
  · split at ok
    · cases ok
      exact outline_onLog r _ _
    · cases ok
  · cases ok

theorem outline_begin (r : Recorder) (now : Time.Instant) (request : Http.Request)
    (connection : Option String) : SameOutline (r.begin now request connection).1 r := by
  simp only [Recorder.begin]
  split
  · exact outline_onLog r _ _
  · exact ⟨rfl, rfl⟩

theorem outline_record (r : Recorder) (t : Trace) (event : Event) :
    SameOutline (r.record t event).1 r := by
  simp only [Recorder.record]
  cases t.phase.after? event with
  | none => exact ⟨rfl, rfl⟩
  | some phase =>
    cases t.place with
    | none => exact ⟨rfl, rfl⟩
    | some place => exact outline_onLog r _ _

/-! ## What changes no entry -/

theorem same_newLog (r : Recorder) (now : Time.Instant) (ref title : Option String) :
    SameEntries (r.newLog now ref title) r := by
  intro n
  simp only [entriesOf, Recorder.newLog, Recorder.log?]
  by_cases old : n < r.logs.length
  · rw [List.getElem?_append_left old]
  · rw [List.getElem?_append_right (by omega), List.getElem?_eq_none (by omega : r.logs.length ≤ n),
      List.getElem?_singleton]
    split <;> rfl

theorem same_endLog (r : Recorder) : SameEntries r.endLog r :=
  fun _ => rfl

theorem same_flags (r : Recorder) (flags : Flags) : SameEntries { r with flags } r :=
  fun _ => rfl

/-- A change of one log that keeps its entries. -/
theorem same_onLog (r : Recorder) (n : Nat) (f : OpenLog → OpenLog)
    (keeps : ∀ log, r.log? n = some log → (f log).entries = log.entries) :
    SameEntries (r.onLog n f) r := by
  intro m
  simp only [entriesOf, log_onLog]
  by_cases same : n = m
  · subst same
    cases found : r.log? n with
    | none => simp
    | some log => simp [keeps log found]
  · simp [same]

theorem edit_entries (log : OpenLog) (now : Time.Instant) (change : LogEdit) :
    (log.edit now change).entries = log.entries := by
  cases change <;> rfl

theorem edits_entries (log : OpenLog) (now : Time.Instant) (changes : List LogEdit) :
    (changes.foldl (·.edit now) log).entries = log.entries := by
  induction changes generalizing log with
  | nil => rfl
  | cons change rest ih => rw [List.foldl_cons, ih, edit_entries]

theorem same_newPage {r s : Recorder} {now : Time.Instant} {ref title : Option String}
    {id : String} (ok : r.newPage now ref title = .ok (s, id)) : SameEntries s r := by
  simp only [Recorder.newPage] at ok
  split at ok
  · split at ok
    · rename_i _ n _ _ log found
      cases ok
      exact same_onLog r n _ fun old held => by
        rw [found] at held
        cases held
        rfl
    · cases ok
  · cases ok

/-! ## What changes one log -/

/-- An event of a recorded exchange changes its own entry and no other. -/
theorem entries_onEntry (r : Recorder) (place : Place) (f : Archive.Entry → Archive.Entry)
    (n : Nat) :
    entriesOf (r.onEntry place f) n =
      if place.log = n then (entriesOf r n).modify place.entry f else entriesOf r n := by
  simp only [entriesOf, Recorder.onEntry, log_onLog]
  by_cases same : place.log = n
  · cases r.log? n with
    | none => simp [same]
    | some log => simp [same]
  · simp [same]

/-- The entry at a place once it is changed. -/
theorem entry_onEntry (r : Recorder) (place : Place) (f : Archive.Entry → Archive.Entry) :
    Recorder.entry? (r.onEntry place f) place = Option.map f (r.entry? place) := by
  rw [entry_at, entries_onEntry, if_pos rfl, List.getElem?_modify_eq, ← entry_at]
  rfl

/-- An exchange by itself: its phase and its entry after an event, which counts only in order. -/
def advance (flags : Flags) (state : Phase × Archive.Entry) (event : Event) :
    Phase × Archive.Entry :=
  match state.1.after? event with
  | some phase => (phase, event.apply flags state.2)
  | none => state

/-- A finished exchange takes no event. -/
theorem final_refuses {phase : Phase} (final : phase.isFinal = true) (event : Event) :
    phase.after? event = none := by
  cases phase <;> first | rfl | cases final

theorem advance_final {flags : Flags} {state : Phase × Archive.Entry}
    (final : state.1.isFinal = true) (event : Event) : advance flags state event = state := by
  simp only [advance, final_refuses final]

/-- A failure ends every exchange that is under way. -/
theorem advance_failed {flags : Flags} {state : Phase × Archive.Entry}
    (underway : state.1.isFinal = false) (reason : String) :
    advance flags state (.failed reason) =
      (.failed, (Event.failed reason).apply flags state.2) := by
  obtain ⟨phase, entry⟩ := state
  cases phase <;> first | rfl | cases underway

/-- An event moves an exchange as if it were alone. -/
theorem record_trace (r : Recorder) (t : Trace) (event : Event) (entry : Archive.Entry) :
    (r.record t event).2 = { t with phase := (advance t.flags (t.phase, entry) event).1 } := by
  simp only [Recorder.record, advance]
  cases t.phase.after? event <;> rfl

/-- The entries after an event: only the one at the place of the exchange moves. -/
theorem entries_record (r : Recorder) (t : Trace) (event : Event) (n : Nat) :
    entriesOf (r.record t event).1 n =
      match t.place with
      | some place =>
        if place.log = n then
          (entriesOf r n).modify place.entry fun entry =>
            (advance t.flags (t.phase, entry) event).2
        else entriesOf r n
      | none => entriesOf r n := by
  simp only [Recorder.record, advance]
  cases t.phase.after? event with
  | none =>
    cases t.place with
    | none => rfl
    | some place =>
      change entriesOf r n =
        if place.log = n then (entriesOf r n).modify place.entry id else entriesOf r n
      rw [List.modify_id, ite_self]
  | some phase =>
    cases t.place with
    | none => rfl
    | some place => exact entries_onEntry r place (event.apply t.flags) n

/-- An event leaves every other log as it is. -/
theorem log_record_ne (r : Recorder) (t : Trace) (event : Event) {n : Nat}
    (other : ∀ place, t.place = some place → place.log ≠ n) :
    (r.record t event).1.log? n = r.log? n := by
  simp only [Recorder.record]
  cases t.phase.after? event with
  | none => rfl
  | some phase =>
    cases held : t.place with
    | none => rfl
    | some place => exact log_onEntry_ne r place _ (other place held)

/-- The entry with which an exchange begins. -/
def fresh (flags : Flags) (page : Option String) (now : Time.Instant) (request : Http.Request)
    (connection : Option String) : Archive.Entry :=
  { pageref := page
    started := now
    request := requestRecord flags request
    connection }

/-- A begin under a running log puts one entry at the end of this log. -/
theorem begin_running {r : Recorder} {n : Nat} {log : OpenLog} (running : r.runningLog? = some n)
    (found : r.log? n = some log) (now : Time.Instant) (request : Http.Request)
    (connection : Option String) :
    r.begin now request connection =
      (r.onLog n fun held =>
        { held with
          entries := held.entries ++ [fresh r.flags log.current now request connection] },
        { place := some ⟨n, log.entries.length⟩, flags := r.flags }) := by
  have current : r.current? = some log := by simp [Recorder.current?, running, found]
  simp only [Recorder.begin, running, current]
  rfl

theorem entries_begin {r : Recorder} {n : Nat} {log : OpenLog} (running : r.runningLog? = some n)
    (found : r.log? n = some log) (now : Time.Instant) (request : Http.Request)
    (connection : Option String) (m : Nat) :
    entriesOf (r.begin now request connection).1 m =
      if n = m then entriesOf r m ++ [fresh r.flags log.current now request connection]
      else entriesOf r m := by
  rw [begin_running running found]
  simp only [entriesOf, log_onLog]
  by_cases same : n = m
  · subst same
    simp [found]
  · simp [same]

/-- A begin without a running log leaves the recorder as it is. -/
theorem begin_stopped {r : Recorder} (stopped : r.runningLog? = none) (now : Time.Instant)
    (request : Http.Request) (connection : Option String) :
    r.begin now request connection = (r, { place := none, flags := r.flags }) := by
  simp only [Recorder.begin, stopped]

end Wirelog.RecorderLaws
