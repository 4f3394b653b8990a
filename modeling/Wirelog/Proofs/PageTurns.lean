import Wirelog.Proofs.LogSuccession

/-! Pages as the calls turn them. Which pages a log has, in which order, and which of them an
exchange finds at its beginning is read off the calls alone: a page is what somebody asked for and
how many pages came before it, and nothing else. The recorder, which holds pages and the current
page in separate places of shared logs, is then shown to agree with that reading after every run. -/
namespace Wirelog.PageTurns
open Recording Recording.Overlap RecorderLaws ExchangeHistory LogSuccession

/-- The name of a page for which none is given, by the number of pages before it. -/
def generated (n : Nat) : String :=
  "Page " ++ Text.natText n

/-- What is asked for when a page is started. -/
structure Turn where
  /-- When it is started. -/
  now : Time.Instant
  /-- The identifier that it is to have. -/
  ref : Option String
  /-- The title that it is to have. -/
  title : Option String

/-- The identifier of a page. -/
def Turn.id (t : Turn) (n : Nat) : String :=
  t.ref.getD (generated n)

/-- The page that comes of it behind a number of others. -/
def Turn.page (t : Turn) (n : Nat) : Archive.Page where
  id := t.id n
  started := t.now
  title := t.title.getD (t.id n)

/-- The pages that turns make. -/
def pagesOf (turns : List Turn) : List Archive.Page :=
  turns.mapIdx fun n t => t.page n

/-- The turns of all logs, and which log is active. -/
structure Paging where
  /-- The turns, log by log. -/
  logs : List (List Turn) := []
  /-- The number of the active log. -/
  active : Option Nat := none

namespace Paging

/-- The turns of a log. -/
def turns (p : Paging) (n : Nat) : List Turn :=
  (p.logs[n]?).getD []

/-- One more turn in a log. -/
def add (p : Paging) (n : Nat) (t : Turn) : Paging :=
  { p with logs := p.logs.modify n (· ++ [t]) }

/-- The turns after a call. -/
def after (p : Paging) : Call → Paging
  | .newLog now ref title =>
    { logs := p.logs ++ [[⟨now, ref, title⟩]], active := some p.logs.length }
  | .endLog => { p with active := none }
  | .newPage now ref title =>
    match p.active with
    | some n => p.add n ⟨now, ref, title⟩
    | none => p
  | .edit n now (.page ref title) => p.add n ⟨now, ref, title⟩
  | _ => p

end Paging

/-- The turns after calls in order. -/
def pagingAfter (calls : List Call) : Paging :=
  calls.foldl Paging.after {}

/-- The turns of a log of a run. -/
def turnsOf (calls : List Call) (n : Nat) : List Turn :=
  (pagingAfter calls).turns n

theorem pagesOf_snoc (turns : List Turn) (t : Turn) :
    pagesOf (turns ++ [t]) = pagesOf turns ++ [t.page turns.length] := by
  simp [pagesOf, List.mapIdx_append]

theorem length_pagesOf (turns : List Turn) : (pagesOf turns).length = turns.length :=
  List.length_mapIdx

/-! ## The recorder agrees with the calls -/

/-- A log shows the pages of turns, the last one as the current one. -/
def Shows (log : OpenLog) (turns : List Turn) : Prop :=
  log.pages = pagesOf turns ∧ log.current = (pagesOf turns).getLast?.map Archive.Page.id

/-- Every log shows the pages of its turns. -/
def Showing (p : Paging) (r : Recorder) : Prop :=
  ∀ n turns, p.logs[n]? = some turns → ∃ log, r.log? n = some log ∧ Shows log turns

/-- A recorder has the logs that the calls say, with the pages that they say. -/
structure Paged (p : Paging) (r : Recorder) : Prop where
  outline : Agrees (p.logs.length, p.active) r
  showing : Showing p r

theorem shows_newPage {log : OpenLog} {turns : List Turn} (shows : Shows log turns)
    (now : Time.Instant) (ref title : Option String) :
    Shows (log.newPage now ref title).1 (turns ++ [⟨now, ref, title⟩]) := by
  simp only [Shows, OpenLog.newPage, pagesOf_snoc, shows.1, length_pagesOf,
    List.getLast?_concat, Option.map_some]
  exact ⟨rfl, rfl⟩

section Showing
variable {p : Paging} {r : Recorder}

/-- A change of one log that leaves its pages alone. -/
theorem showing_kept (showing : Showing p r) (n : Nat) {f : OpenLog → OpenLog}
    (keeps : ∀ log, (f log).pages = log.pages ∧ (f log).current = log.current) :
    Showing p (r.onLog n f) := by
  intro m turns asked
  obtain ⟨log, found, pages, current⟩ := showing m turns asked
  rw [log_onLog, found]
  by_cases same : n = m
  · exact ⟨f log, by simp [same], (keeps log).1.trans pages, (keeps log).2.trans current⟩
  · exact ⟨log, by simp [same], pages, current⟩

/-- A change of one log that starts a page there. -/
theorem showing_add (showing : Showing p r) {n : Nat} {f : OpenLog → OpenLog} {t : Turn}
    (starts : ∀ log turns, r.log? n = some log → Shows log turns → Shows (f log) (turns ++ [t])) :
    Showing (p.add n t) (r.onLog n f) := by
  intro m turns asked
  rw [log_onLog]
  by_cases same : n = m
  · subst same
    rw [Paging.add, List.getElem?_modify_eq] at asked
    obtain ⟨before, earlier, rfl⟩ := Option.map_eq_some_iff.mp asked
    obtain ⟨log, found, shows⟩ := showing n before earlier
    exact ⟨f log, by simp [found], starts log before found shows⟩
  · rw [Paging.add, List.getElem?_modify_ne _ _ same] at asked
    obtain ⟨log, found, shows⟩ := showing m turns asked
    exact ⟨log, by simp [same, found], shows⟩

theorem showing_newLog (paged : Paged p r) (now : Time.Instant) (ref title : Option String) :
    Showing { logs := p.logs ++ [[⟨now, ref, title⟩]], active := some p.logs.length }
      (r.newLog now ref title) := by
  intro n turns asked
  have length : r.logs.length = p.logs.length := paged.outline.1
  simp only [Recorder.newLog, Recorder.log?]
  rcases Nat.lt_or_ge n p.logs.length with old | new
  · rw [List.getElem?_append_left old] at asked
    rw [List.getElem?_append_left (by omega)]
    exact paged.showing n turns asked
  · rw [List.getElem?_append_right new, List.getElem?_singleton] at asked
    rw [List.getElem?_append_right (by omega), List.getElem?_singleton, length]
    split at asked
    case isFalse => cases asked
    case isTrue here =>
      cases asked
      have blank : Shows {} [] := ⟨rfl, rfl⟩
      exact ⟨.create now ref title, by simp [here], shows_newPage blank now ref title⟩

theorem showing_begin (showing : Showing p r) (now : Time.Instant) (request : Http.Request)
    (connection : Option String) : Showing p (r.begin now request connection).1 := by
  cases running : r.runningLog? with
  | none => rwa [begin_stopped running]
  | some n =>
    obtain ⟨log, found, -, -⟩ := running_is_log running
    rw [begin_running running found]
    exact showing_kept showing n fun _ => ⟨rfl, rfl⟩

theorem showing_record (showing : Showing p r) (t : Trace) (event : Event) :
    Showing p (r.record t event).1 := by
  simp only [Recorder.record]
  cases t.phase.after? event with
  | none => exact showing
  | some phase =>
    cases t.place with
    | none => exact showing
    | some place => exact showing_kept showing place.log fun _ => ⟨rfl, rfl⟩

end Showing

/-- The outline of the logs is the one that succession gives. -/
theorem succeed_outline (p : Paging) (call : Call) :
    ((p.after call).logs.length, (p.after call).active) =
      succeed (p.logs.length, p.active) call := by
  cases call with
  | newLog => simp [Paging.after, succeed]
  | newPage =>
    simp only [Paging.after, succeed]
    cases active : p.active <;> simp [Paging.add, active]
  | edit n now change => cases change <;> simp [Paging.after, Paging.add, succeed]
  | _ => rfl

/-- Every call keeps the pages of the logs together with the turns. -/
theorem paged_after {p : Paging} {l : Ledger} (paged : Paged p l.recorder) (call : Call) :
    Paged (p.after call) (l.after call).recorder := by
  refine ⟨succeed_outline p call ▸ agrees_after paged.outline call, ?_⟩
  cases call with
  | newLog now ref title => exact showing_newLog paged now ref title
  | newPage now ref title =>
    have running : l.recorder.runningLog? = p.active := paged.outline.2
    cases active : p.active with
    | none =>
      simpa [Paging.after, Ledger.after, Ledger.step, Recorder.newPage, active, running] using
        paged.showing
    | some n =>
      rw [active] at running
      obtain ⟨log, found, -, -⟩ := running_is_log running
      simp only [Paging.after, active, Ledger.after, Ledger.step, Recorder.newPage, running, found]
      refine showing_add paged.showing fun log' turns held shows => ?_
      rw [found] at held
      cases held
      exact shows_newPage shows now ref title
  | begin now request connection => exact showing_begin paged.showing now request connection
  | edit n now change =>
    cases change with
    | comment text => exact showing_kept paged.showing n fun _ => ⟨rfl, rfl⟩
    | page ref title =>
      exact showing_add paged.showing fun _ _ _ shows => shows_newPage shows now ref title
  | touch k t =>
    simp only [Paging.after, Ledger.after, Ledger.step, Ledger.touch]
    split
    · exact showing_record paged.showing _ _
    · exact paged.showing
  | _ => exact paged.showing

theorem paged_run {p : Paging} {l : Ledger} (paged : Paged p l.recorder) (calls : List Call) :
    Paged (calls.foldl Paging.after p) (l.run calls).recorder := by
  induction calls generalizing p l with
  | nil => exact paged
  | cons call rest ih => exact ih (paged_after paged call)

/-- A log of the recorder shows the turns of its number. -/
theorem log_shows {p : Paging} {r : Recorder} (paged : Paged p r) {n : Nat} {log : OpenLog}
    (found : r.log? n = some log) : Shows log (p.turns n) := by
  have length : r.logs.length = p.logs.length := paged.outline.1
  have bound : n < r.logs.length := (List.getElem?_eq_some_iff.mp found).1
  have asked : p.logs[n]? = some p.logs[n] := List.getElem?_eq_getElem (by omega)
  obtain ⟨log', found', shows⟩ := paged.showing n _ asked
  rw [found] at found'
  cases found'
  rwa [Paging.turns, asked]

theorem paged_new (flags : Flags) : Paged {} (Ledger.new flags).recorder :=
  ⟨⟨rfl, rfl⟩, fun _ _ asked => by cases asked⟩

/-- After every run the recorder has the pages that the calls say. -/
theorem run_is_paged (flags : Flags) (calls : List Call) :
    Paged (pagingAfter calls) ((Ledger.new flags).run calls).recorder :=
  paged_run (paged_new flags) calls

end Wirelog.PageTurns
