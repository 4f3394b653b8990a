import Wirelog.Proofs.ExchangeHistory

/-! Logs that take over from one another. Which log is active, and in which log every exchange
began, is read off the calls alone; the recorder is then shown to agree with that reading after
every run. So an exchange has its entry in the log of its beginning, at the place that the begins
before it leave, for as long as the recorder lives. -/
namespace Wirelog.LogSuccession
open Recording Recording.Overlap RecorderLaws ExchangeHistory

/-- How many logs were opened, and the number of the active one, after a call. -/
def succeed (now : Nat × Option Nat) : Call → Nat × Option Nat
  | .newLog .. => (now.1 + 1, some now.1)
  | .endLog => (now.1, none)
  | _ => now

/-- The log that is active after calls. -/
def activeAfter (calls : List Call) : Option Nat :=
  (calls.foldl succeed (0, none)).2

/-- The log that is active at each begin. -/
def epochsFrom (now : Nat × Option Nat) : List Call → List (Option Nat)
  | [] => []
  | .begin .. :: rest => now.2 :: epochsFrom now rest
  | call :: rest => epochsFrom (succeed now call) rest

/-- The log that was active at each begin of a run, in the order of the begins. -/
def epochs (calls : List Call) : List (Option Nat) :=
  epochsFrom (0, none) calls

/-- The place that an exchange has. -/
def placeOf (l : Ledger) (k : Nat) : Option Place :=
  l.traces[k]?.bind Trace.place

/-! ## The recorder agrees with the calls -/

/-- A recorder has as many logs and the active one that the calls say. -/
def Agrees (now : Nat × Option Nat) (r : Recorder) : Prop :=
  r.logs.length = now.1 ∧ r.runningLog? = now.2

private theorem agrees_same {now : Nat × Option Nat} {r s : Recorder} (agrees : Agrees now r)
    (same : SameOutline s r) : Agrees now s :=
  ⟨same.1.trans agrees.1, (running_of_outline same).trans agrees.2⟩

theorem agrees_after {now : Nat × Option Nat} {l : Ledger} (agrees : Agrees now l.recorder)
    (call : Call) : Agrees (succeed now call) (l.after call).recorder := by
  cases call with
  | newLog moment ref title =>
    simp [Agrees, succeed, Ledger.after, Ledger.step, Recorder.replaceLog, Recorder.newLog,
      Recorder.runningLog?, agrees.1]
  | endLog => exact ⟨agrees.1, by simp [Ledger.after, Ledger.step, Recorder.closeLog,
      Recorder.endLog, Recorder.runningLog?, succeed]⟩
  | newPage moment ref title =>
    simp only [Ledger.after, Ledger.step]
    cases answer : l.recorder.newPage moment ref title with
    | error reason => exact agrees
    | ok result => exact agrees_same agrees (outline_newPage answer)
  | keep part on => exact agrees
  | begin moment request connection => exact agrees_same agrees (outline_begin ..)
  | look => exact agrees
  | edit n moment change => exact agrees_same agrees (outline_onLog ..)
  | touch k call =>
    simp only [Ledger.after, Ledger.step, Ledger.touch]
    split
    · exact agrees_same agrees (outline_record ..)
    · exact agrees

theorem agrees_run {now : Nat × Option Nat} {l : Ledger} (agrees : Agrees now l.recorder)
    (calls : List Call) : Agrees (calls.foldl succeed now) (l.run calls).recorder := by
  induction calls generalizing now l with
  | nil => exact agrees
  | cons call rest ih => exact ih (agrees_after agrees call)

theorem running_is_active (flags : Flags) (calls : List Call) :
    ((Ledger.new flags).run calls).recorder.runningLog? = activeAfter calls :=
  (agrees_run (l := .new flags) ⟨rfl, rfl⟩ calls).2

/-- Exchanges begin in the logs that are active by the calls. -/
theorem openings_follow_epochs {now : Nat × Option Nat} {l : Ledger}
    (agrees : Agrees now l.recorder) (calls : List Call) :
    (openings l calls).map History.log = epochsFrom now calls := by
  induction calls generalizing now l with
  | nil => rfl
  | cons call rest ih =>
    have next := ih (agrees_after agrees call)
    cases call with
    | begin moment request connection =>
      rw [openings, List.map_cons, next, epochsFrom, opening, agrees.2]
      rfl
    | _ => exact next

/-- Every run is told by histories that name its epochs. -/
theorem told_by_epochs (flags : Flags) (calls : List Call) :
    ∃ hs, Tells hs ((Ledger.new flags).run calls) ∧ hs.map History.log = epochs calls := by
  have start : Agrees (0, none) (Ledger.new flags).recorder := ⟨rfl, rfl⟩
  refine ⟨_, tells_run (tells_new flags) calls, ?_⟩
  rw [map_histories fun _ _ => rfl]
  exact openings_follow_epochs start calls

/-! ## What histories say about logs -/

/-- The exchanges that began while a log was active, in the order of their beginning. -/
def beginsIn (calls : List Call) (n : Nat) : List Nat :=
  ((epochs calls).zipIdx.filter (·.1 == some n)).map (·.2)

private theorem history_of_epoch {hs : List History} {calls : List Call}
    (logs : hs.map History.log = epochs calls) {k : Nat} {epoch : Option Nat}
    (begun : (epochs calls)[k]? = some epoch) : ∃ h, hs[k]? = some h ∧ h.log = epoch := by
  rw [← logs, List.getElem?_map] at begun
  exact Option.map_eq_some_iff.mp begun

/-- Each log has one entry for each exchange that began in it, in order. -/
theorem entries_of_begins {hs : List History} {l : Ledger} {calls : List Call}
    (tells : Tells hs l) (logs : hs.map History.log = epochs calls) (n : Nat) :
    (entriesOf l.recorder n).map some = (beginsIn calls n).map l.entryOf := by
  have begins : beginsIn calls n = (hs.zipIdx.filter (·.1.log == some n)).map (·.2) := by
    rw [beginsIn, ← logs, List.zipIdx_map, List.filter_map, List.map_map]
    rfl
  have chosen := chosen_entries tells n fun _ => true
  rw [List.filter_eq_self.mpr fun _ _ => rfl] at chosen
  simp only [tells.entries, begins, chosen, Bool.and_true]

/-- An exchange stands behind those that began in its log before it. -/
theorem place_of_epoch {hs : List History} {l : Ledger} {calls : List Call}
    (tells : Tells hs l) (logs : hs.map History.log = epochs calls) {k : Nat} {epoch : Option Nat}
    (begun : (epochs calls)[k]? = some epoch) :
    placeOf l k = epoch.map fun n => ⟨n, ((epochs calls).take k).count (some n)⟩ := by
  obtain ⟨h, found, rfl⟩ := history_of_epoch logs begun
  have before (n : Nat) :
      (within n (hs.take k)).length = ((epochs calls).take k).count (some n) := by
    rw [← logs, ← List.map_take, List.count_eq_countP, List.countP_map, within,
      ← List.countP_eq_length_filter]
    rfl
  simp only [placeOf, tells.traces, found, Option.map_some, Option.bind_some, traceOf, before]

/-- A call on an exchange leaves every log alone in which it did not begin. -/
theorem touch_elsewhere {hs : List History} {l : Ledger} {calls : List Call}
    (tells : Tells hs l) (logs : hs.map History.log = epochs calls) {k n : Nat} (t : Touch)
    (elsewhere : (epochs calls)[k]? ≠ some (some n)) :
    (l.after (.touch k t)).recorder.log? n = l.recorder.log? n := by
  simp only [Ledger.after, Ledger.step, Ledger.touch, tells.traces]
  cases found : hs[k]? with
  | none => rfl
  | some h =>
    refine log_record_ne l.recorder (traceOf hs k h) t.toEvent fun place held here => ?_
    obtain ⟨m, log, rfl⟩ := Option.map_eq_some_iff.mp held
    cases here
    exact elsewhere (by rw [← logs, List.getElem?_map, found, Option.map_some, log])

/-! ## The law of succession -/

/-- What holds of a ledger after calls. -/
structure Succession (calls : List Call) (l : Ledger) : Prop where
  /-- With an active log, a begin puts its own entry at the end of this log, and no other log
  changes. -/
  begun : ∀ n now request connection, activeAfter calls = some n →
    let m := l.after (.begin now request connection)
    ∃ log, l.recorder.log? n = some log ∧
      let entry := fresh l.recorder.flags log.current now request connection
      m.recorder.log? n = some { log with entries := log.entries ++ [entry] } ∧
      m.entryOf l.traces.length = some entry ∧
      ∀ other ≠ n, m.recorder.log? other = l.recorder.log? other
  /-- Without one, it leaves the recorder as it is. -/
  unrecorded : ∀ now request connection, activeAfter calls = none →
    (l.after (.begin now request connection)).recorder = l.recorder
  /-- A log that is replaced is handed out as it was. -/
  replaced : ∀ now ref title, (l.step (.newLog now ref title)).2 = (l.step .look).2
  /-- A log that is closed is handed out as it was. -/
  closed : (l.step .endLog).2 = (l.step .look).2
  /-- The active log lists the exchanges that began while it was active, each once, in the order of
  their beginning. -/
  listed : ∀ n, activeAfter calls = some n →
    ∃ document, (l.step .look).2 = .log (some document) ∧
      document.entries.map some = (beginsIn calls n).map l.entryOf
  /-- Without an active log there is nothing to hand out. -/
  silent : activeAfter calls = none → (l.step .look).2 = .log none
  /-- Every log that ever was keeps listing its exchanges in this way, and no others. -/
  kept : ∀ n, (entriesOf l.recorder n).map some = (beginsIn calls n).map l.entryOf
  /-- An exchange stands in the log of its beginning, behind those that began there before it. -/
  placed : ∀ k epoch, (epochs calls)[k]? = some epoch →
    placeOf l k = epoch.map fun n => ⟨n, ((epochs calls).take k).count (some n)⟩
  /-- A log opens with one page and no entries, after all others, and is then active. -/
  opened : ∀ now ref title,
    let m := l.after (.newLog now ref title)
    m.recorder.runningLog? = some l.recorder.logs.length ∧
      ∃ page, m.recorder.logs =
        l.recorder.logs ++ [{ pages := [page], entries := [], current := some page.id }]
  /-- A call on an exchange touches no log but that of its beginning. -/
  confined : ∀ k t n, (epochs calls)[k]? ≠ some (some n) →
    (l.after (.touch k t)).recorder.log? n = l.recorder.log? n

private theorem begin_in_log {flags : Flags} {earlier : List Call} {l : Ledger} {n : Nat}
    (reached : l = (Ledger.new flags).run earlier) (running : l.recorder.runningLog? = some n)
    (now : Time.Instant) (request : Http.Request) (connection : Option String) :
    let m := l.after (.begin now request connection)
    ∃ log, l.recorder.log? n = some log ∧
      let entry := fresh l.recorder.flags log.current now request connection
      m.recorder.log? n = some { log with entries := log.entries ++ [entry] } ∧
      m.entryOf l.traces.length = some entry ∧
      ∀ other ≠ n, m.recorder.log? other = l.recorder.log? other := by
  obtain ⟨log, found, current, -⟩ := running_is_log running
  refine ⟨log, found, ?_, ?_, fun other apart => ?_⟩
  · simp [Ledger.after, Ledger.step, begin_running running found, log_onLog, found]
  · have told := entry_since_begin ⟨flags, earlier, reached⟩ now request connection []
    rw [running, Option.map_some] at told
    refine told.trans (congrArg some ?_)
    simp [opening, current, callsOn, History.entry, History.state, History.first]
  · simp [Ledger.after, Ledger.step, begin_running running found, log_onLog, apart.symm]

private theorem look_at_active {l : Ledger} {n : Nat} (running : l.recorder.runningLog? = some n) :
    ∃ document, (l.step .look).2 = .log (some document) ∧
      document.entries = entriesOf l.recorder n := by
  obtain ⟨log, found, current, -⟩ := running_is_log running
  exact ⟨log.document, by simp [Ledger.step, Recorder.document?, current],
    (entries_of_log found).symm⟩

private theorem handed_out (l : Ledger) (now : Time.Instant) (ref title : Option String) :
    (l.step (.newLog now ref title)).2 = (l.step .look).2 := by
  simp only [Ledger.step, Recorder.replaceLog, Recorder.document?, Recorder.current?]
  cases running : l.recorder.runningLog? with
  | none => rfl
  | some n =>
    -- The old log is read after the new one is in place, where it still has its number.
    obtain ⟨log, found, -, last⟩ := running_is_log running
    have old : (l.recorder.newLog now ref title).log? n = l.recorder.log? n := by
      simp only [Recorder.newLog, Recorder.log?]
      exact List.getElem?_append_left (by omega)
    simp only [Option.bind_some, old]

/-- No entry is lost, doubled or moved, however often the logs change. -/
theorem logs_succeed_one_another (flags : Flags) (calls : List Call) :
    Succession calls ((Ledger.new flags).run calls) := by
  obtain ⟨hs, tells, logs⟩ := told_by_epochs flags calls
  have active := running_is_active flags calls
  generalize reached : (Ledger.new flags).run calls = l at *
  have kept := entries_of_begins tells logs
  constructor
  case begun =>
    exact fun n now request connection running =>
      begin_in_log reached.symm (active.trans running) now request connection
  case unrecorded =>
    intro now request connection stopped
    simp only [Ledger.after, Ledger.step, begin_stopped (active.trans stopped)]
  case replaced => exact handed_out l
  case closed => rfl
  case listed =>
    intro n running
    obtain ⟨document, seen, entries⟩ := look_at_active (active.trans running)
    exact ⟨document, seen, entries ▸ kept n⟩
  case silent =>
    intro stopped
    simp only [Ledger.step, Recorder.document?, current_of_stopped (active.trans stopped),
      Option.map_none]
  case kept => exact kept
  case placed => exact fun k epoch => place_of_epoch tells logs
  case opened =>
    intro now ref title
    refine ⟨?_, _, rfl⟩
    simp [Ledger.after, Ledger.step, Recorder.replaceLog, Recorder.newLog, Recorder.runningLog?]
  case confined => exact fun k t n => touch_elsewhere tells logs t

end Wirelog.LogSuccession
