import Wirelog.Proofs.RecorderLaws
import Wirelog.Recording.Overlap

/-! What an overlapping run means for each exchange. A history holds what was true when one exchange
began and the calls on this exchange since, and nothing else; its entry is computed from that alone.
The ledger keeps entries in shared logs and finds them by their places, so the work is to show that
these places are right: the entries of every log are those of the histories that began in it, in the
order of their beginning, whatever happened in between. -/
namespace Wirelog.ExchangeHistory
open Recording Recording.Overlap RecorderLaws

/-- One exchange by itself. -/
structure History where
  /-- The log that was active when it began. -/
  log : Option Nat
  /-- The page that was current then. -/
  page : Option String
  /-- The flags that were set then. -/
  flags : Flags
  /-- When it began. -/
  started : Time.Instant
  /-- The request that it began with. -/
  request : Http.Request
  /-- The label of its connection. -/
  connection : Option String
  /-- The calls on it so far. -/
  touches : List Touch := []

namespace History

/-- Its entry at the beginning. -/
def first (h : History) : Archive.Entry :=
  fresh h.flags h.page h.started h.request h.connection

/-- Its phase and its entry by now. -/
def state (h : History) : Phase × Archive.Entry :=
  (h.touches.map Touch.toEvent).foldl (advance h.flags) (.opened, h.first)

/-- Its phase by now. -/
def phase (h : History) : Phase := h.state.1

/-- Its entry by now. -/
def entry (h : History) : Archive.Entry := h.state.2

/-- The history after one more call. -/
def push (h : History) (t : Touch) : History :=
  { h with touches := h.touches ++ [t] }

theorem state_push (h : History) (t : Touch) :
    (h.push t).state = advance h.flags (h.phase, h.entry) t.toEvent := by
  simp only [state, push, List.map_append, List.map_singleton, List.foldl_append,
    List.foldl_cons, List.foldl_nil]
  rfl

end History

/-- The histories that began in a log. -/
def within (n : Nat) (hs : List History) : List History :=
  hs.filter (·.log == some n)

/-- The history of an exchange that begins. -/
def opening (l : Ledger) (now : Time.Instant) (request : Http.Request)
    (connection : Option String) : History where
  log := l.recorder.runningLog?
  page := l.recorder.current?.bind OpenLog.current
  flags := l.recorder.flags
  started := now
  request := request
  connection := connection

/-- The histories after a call. -/
def extend (l : Ledger) (hs : List History) : Call → List History
  | .begin now request connection => hs ++ [opening l now request connection]
  | .touch k t => hs.modify k (·.push t)
  | _ => hs

/-- The histories after calls in order. -/
def histories (l : Ledger) (hs : List History) : List Call → List History
  | [] => hs
  | call :: rest => histories (l.after call) (extend l hs call) rest

/-- The histories of the exchanges that begin during calls, each as it is at its beginning. -/
def openings (l : Ledger) : List Call → List History
  | [] => []
  | .begin now request connection :: rest =>
    opening l now request connection :: openings (l.after (.begin now request connection)) rest
  | call :: rest => openings (l.after call) rest

/-- How the ledger holds an exchange: its place is the number of histories before it that began in
the same log. -/
def traceOf (hs : List History) (k : Nat) (h : History) : Trace :=
  { place := h.log.map fun n => ⟨n, (within n (hs.take k)).length⟩
    phase := h.phase
    flags := h.flags }

/-- The histories tell everything that a ledger holds about its exchanges. -/
structure Tells (hs : List History) (l : Ledger) : Prop where
  entries : ∀ n, entriesOf l.recorder n = (within n hs).map History.entry
  traces : ∀ k, l.traces[k]? = hs[k]?.map (traceOf hs k)

theorem tells_length {hs : List History} {l : Ledger} (tells : Tells hs l) :
    l.traces.length = hs.length := by
  have none_iff (k : Nat) : l.traces.length ≤ k ↔ hs.length ≤ k := by
    rw [← List.getElem?_eq_none_iff, tells.traces k, Option.map_eq_none_iff,
      List.getElem?_eq_none_iff]
  exact Nat.le_antisymm ((none_iff _).mpr (Nat.le_refl _)) ((none_iff _).mp (Nat.le_refl _))

/-- Nothing but the entries and the traces matters. -/
private theorem tells_same {hs : List History} {l m : Ledger} (tells : Tells hs l)
    (entries : SameEntries m.recorder l.recorder) (traces : m.traces = l.traces) : Tells hs m :=
  ⟨fun n => (entries n).trans (tells.entries n), fun k => traces ▸ tells.traces k⟩

private theorem split_at {hs : List History} {k : Nat} {h : History} (found : hs[k]? = some h) :
    hs = hs.take k ++ h :: hs.drop (k + 1) := by
  obtain ⟨bound, rfl⟩ := List.getElem?_eq_some_iff.mp found
  rw [← List.drop_eq_getElem_cons bound, List.take_append_drop]

/-- The place of a history leads to its entry. -/
theorem entry_of_place {hs : List History} {k : Nat} {h : History} {n : Nat}
    (found : hs[k]? = some h) (log : h.log = some n) :
    (within n hs)[(within n (hs.take k)).length]? = some h := by
  have here : within n (h :: hs.drop (k + 1)) = h :: within n (hs.drop (k + 1)) := by
    simp [within, log]
  have whole : within n hs = within n (hs.take k) ++ h :: within n (hs.drop (k + 1)) := by
    rw [← here, within, within, within, ← List.filter_append, ← split_at found]
  rw [whole, List.getElem?_append_right (Nat.le_refl _), Nat.sub_self]
  rfl

/-- A call on an exchange moves its history at its place, and no other history of any log. -/
private theorem within_push {hs : List History} {k : Nat} {h : History} (found : hs[k]? = some h)
    (t : Touch) (n : Nat) :
    within n (hs.modify k (·.push t)) =
      if h.log = some n then (within n hs).modify (within n (hs.take k)).length (·.push t)
      else within n hs := by
  have bound := (List.getElem?_eq_some_iff.mp found).1
  have moved : hs.modify k (·.push t) = hs.take k ++ h.push t :: hs.drop (k + 1) := by
    obtain ⟨_, rfl⟩ := List.getElem?_eq_some_iff.mp found
    exact List.modify_eq_take_cons_drop bound
  have whole := split_at found
  rw [moved]
  generalize hs.take k = before at whole ⊢
  generalize hs.drop (k + 1) = rest at whole ⊢
  subst whole
  by_cases log : h.log = some n
  · have pushed : (h.push t).log = some n := log
    simp [within, log, pushed, List.modify_eq_take_cons_drop]
  · have pushed : (h.push t).log ≠ some n := log
    simp [within, log, pushed]

/-- Calls on exchanges never change how many histories began in a log. -/
private theorem within_push_length (hs : List History) (k : Nat) (t : Touch) (n : Nat) :
    (within n (hs.modify k (·.push t))).length = (within n hs).length := by
  cases found : hs[k]? with
  | none => rw [List.modify_eq_self (List.getElem?_eq_none_iff.mp found)]
  | some h =>
    rw [within_push found]
    split
    · exact List.length_modify ..
    · rfl

private theorem traceOf_push (hs : List History) (k j : Nat) (t : Touch) :
    traceOf (hs.modify k (·.push t)) j = traceOf hs j := by
  funext h
  simp only [traceOf, List.take_modify, within_push_length]

private theorem map_modify {α β : Type} {xs : List α} {i : Nat} {x : α} {f : α → β} {g : α → α}
    {g' : β → β} (found : xs[i]? = some x) (agree : f (g x) = g' (f x)) :
    (xs.modify i g).map f = (xs.map f).modify i g' := by
  apply List.ext_getElem?
  intro j
  by_cases same : i = j
  · subst same
    simp [found, agree]
  · simp [same]

/-- What does not look at the calls on an exchange is the same after one. -/
theorem map_push {α : Type} {view : History → α} (blind : ∀ h t, view (h.push t) = view h)
    (hs : List History) (k : Nat) (t : Touch) :
    (hs.modify k (·.push t)).map view = hs.map view := by
  refine List.ext_getElem? fun j => ?_
  simp only [List.getElem?_map, List.getElem?_modify]
  by_cases same : k = j
  · cases hs[j]? <;> simp [same, blind]
  · simp [same]

/-- So all that a run adds to it comes with the exchanges that begin. -/
theorem map_histories {α : Type} {view : History → α} (blind : ∀ h t, view (h.push t) = view h)
    (l : Ledger) (hs : List History) (calls : List Call) :
    (histories l hs calls).map view = hs.map view ++ (openings l calls).map view := by
  induction calls generalizing l hs with
  | nil => exact (List.append_nil _).symm
  | cons call rest ih =>
    have next := ih (l.after call) (extend l hs call)
    cases call with
    | begin now request connection =>
      rw [histories, next, extend, openings, List.map_append, List.append_assoc]
      rfl
    | touch k t =>
      rw [histories, next, extend, map_push blind]
      rfl
    | _ => exact next

/-- A call on an exchange changes its own entry and phase alone. -/
theorem tells_touch {hs : List History} {l : Ledger} (tells : Tells hs l) (k : Nat) (t : Touch) :
    Tells (hs.modify k (·.push t)) (l.touch k t) := by
  cases found : hs[k]? with
  | none =>
    have absent : l.traces[k]? = none := by rw [tells.traces, found]; rfl
    rw [List.modify_eq_self (List.getElem?_eq_none_iff.mp found)]
    simpa only [Ledger.touch, absent] using tells
  | some h =>
    have held : l.traces[k]? = some (traceOf hs k h) := by rw [tells.traces, found]; rfl
    have entry : (h.push t).entry = (advance h.flags (h.phase, h.entry) t.toEvent).2 :=
      congrArg Prod.snd (h.state_push t)
    have phase : (h.push t).phase = (advance h.flags (h.phase, h.entry) t.toEvent).1 :=
      congrArg Prod.fst (h.state_push t)
    constructor
    · intro n
      simp only [Ledger.touch, held, entries_record, within_push found, tells.entries, traceOf]
      cases log : h.log with
      | none => simp
      | some m =>
        by_cases same : m = n
        · subst same
          simp only [Option.map_some, ↓reduceIte]
          exact (map_modify (entry_of_place found log) entry).symm
        · simp [same]
    · intro j
      simp only [Ledger.touch, held, traceOf_push, record_trace _ _ _ h.entry]
      by_cases same : k = j
      · subst same
        have bound := (List.getElem?_eq_some_iff.mp held).1
        rw [List.getElem?_set_self bound, List.getElem?_modify_eq, found]
        exact congrArg (fun now => some { traceOf hs k h with phase := now }) phase.symm
      · rw [List.getElem?_set_ne same, List.getElem?_modify_ne _ _ same, tells.traces]

private theorem traces_snoc {hs : List History} {l : Ledger} (tells : Tells hs l) {h : History}
    {t : Trace} (held : t = traceOf hs hs.length h) (k : Nat) :
    (l.traces ++ [t])[k]? = (hs ++ [h])[k]?.map (traceOf (hs ++ [h]) k) := by
  have earlier (bound : k ≤ hs.length) : traceOf (hs ++ [h]) k = traceOf hs k := by
    funext h
    simp only [traceOf, List.take_append_of_le_length bound]
  have length := tells_length tells
  rcases Nat.lt_trichotomy k hs.length with old | here | beyond
  · rw [List.getElem?_append_left (by omega), List.getElem?_append_left old,
      earlier (Nat.le_of_lt old), tells.traces]
  · subst here
    rw [List.getElem?_concat_length, earlier (Nat.le_refl _), ← length,
      List.getElem?_concat_length, Option.map_some, length, held]
  · rw [List.getElem?_eq_none (by simp; omega), List.getElem?_eq_none (by simp; omega)]
    rfl

/-- A begin adds one history, and one entry to the log that is active, if there is one. -/
theorem tells_begin {hs : List History} {l : Ledger} (tells : Tells hs l) (now : Time.Instant)
    (request : Http.Request) (connection : Option String) :
    Tells (hs ++ [opening l now request connection])
      (l.after (.begin now request connection)) := by
  cases running : l.recorder.runningLog? with
  | none =>
    have held : { place := none, flags := l.recorder.flags : Trace } =
        traceOf hs hs.length (opening l now request connection) := by
      simp [traceOf, opening, running, History.phase, History.state]
    simp only [Ledger.after, Ledger.step, begin_stopped running]
    exact ⟨fun n => by simp [tells.entries, within, opening, running], traces_snoc tells held⟩
  | some n =>
    obtain ⟨log, found, current, -⟩ := running_is_log running
    have size : log.entries.length = (within n hs).length := by
      rw [← entries_of_log found, tells.entries, List.length_map]
    have held : { place := some ⟨n, log.entries.length⟩, flags := l.recorder.flags : Trace } =
        traceOf hs hs.length (opening l now request connection) := by
      simp [traceOf, opening, running, History.phase, History.state, size]
    simp only [Ledger.after, Ledger.step]
    constructor
    · intro m
      rw [entries_begin running found, tells.entries]
      by_cases same : n = m
      · subst same
        simp [within, opening, running, current, History.entry, History.state, History.first]
      · simp [within, opening, running, same]
    · rw [begin_running running found]
      exact traces_snoc tells held

/-- Every call keeps histories and ledger together. -/
theorem tells_after {hs : List History} {l : Ledger} (tells : Tells hs l) (call : Call) :
    Tells (extend l hs call) (l.after call) := by
  cases call with
  | newLog now ref title => exact tells_same tells (same_newLog l.recorder now ref title) rfl
  | endLog => exact tells_same tells (same_endLog l.recorder) rfl
  | newPage now ref title =>
    simp only [extend, Ledger.after, Ledger.step]
    cases answer : l.recorder.newPage now ref title with
    | error reason => exact tells
    | ok result => exact tells_same tells (same_newPage answer) rfl
  | keep part on => exact tells_same tells (same_flags l.recorder _) rfl
  | begin now request connection => exact tells_begin tells now request connection
  | look => exact tells
  | edit n now change =>
    exact tells_same tells (same_onLog l.recorder n _ fun log _ => edit_entries log now change) rfl
  | touch k t => exact tells_touch tells k t

theorem tells_run {hs : List History} {l : Ledger} (tells : Tells hs l) (calls : List Call) :
    Tells (histories l hs calls) (l.run calls) := by
  induction calls generalizing hs l with
  | nil => exact tells
  | cons call rest ih => exact ih (tells_after tells call)

theorem tells_new (flags : Flags) : Tells [] (Ledger.new flags) :=
  ⟨fun _ => rfl, fun _ => rfl⟩

/-- The ledgers that runs lead to from the start of a recorder. -/
def Reached (l : Ledger) : Prop :=
  ∃ flags calls, l = (Ledger.new flags).run calls

/-- Every ledger that a run leads to is told by histories. -/
theorem reached_is_told {l : Ledger} (reached : Reached l) : ∃ hs, Tells hs l := by
  obtain ⟨flags, calls, rfl⟩ := reached
  exact ⟨_, tells_run (tells_new flags) calls⟩

/-- The calls on one exchange among all calls. -/
def callsOn (k : Nat) (calls : List Call) : List Touch :=
  calls.filterMap fun
    | .touch j t => if j = k then some t else none
    | _ => none

/-- Of all that happens, a history that is there takes up the calls on its own exchange alone. -/
theorem history_after {hs : List History} {l : Ledger} {k : Nat} {h : History}
    (found : hs[k]? = some h) (calls : List Call) :
    (histories l hs calls)[k]? = some { h with touches := h.touches ++ callsOn k calls } := by
  induction calls generalizing hs l h with
  | nil => simpa [histories, callsOn] using found
  | cons call rest ih =>
    cases call with
    | begin now request connection =>
      have bound := (List.getElem?_eq_some_iff.mp found).1
      exact ih (by rw [extend, List.getElem?_append_left bound, found])
    | touch j t =>
      by_cases same : j = k
      · subst same
        have pushed : (hs.modify j (·.push t))[j]? = some (h.push t) := by
          rw [List.getElem?_modify_eq, found]
          rfl
        simpa [histories, extend, callsOn, History.push] using ih pushed
      · have kept : (hs.modify j (·.push t))[k]? = some h := by
          rw [List.getElem?_modify_ne _ _ same, found]
        simpa [histories, extend, callsOn, same] using ih kept
    | _ => exact ih found

/-- The entry that the ledger shows for an exchange is the one of its history. -/
theorem entry_is_told {hs : List History} {l : Ledger} (tells : Tells hs l) (k : Nat) :
    l.entryOf k = hs[k]?.bind fun h => h.log.map fun _ => h.entry := by
  simp only [Ledger.entryOf, tells.traces]
  cases found : hs[k]? with
  | none => rfl
  | some h =>
    cases log : h.log with
    | none => simp [traceOf, Recorder.snapshot, log]
    | some n =>
      simp [traceOf, Recorder.snapshot, log, entry_at, tells.entries, entry_of_place found log]

/-- The entries of some of the histories of a log are what the ledger shows for these exchanges. -/
theorem chosen_entries {hs : List History} {l : Ledger} (tells : Tells hs l) (n : Nat)
    (choose : History → Bool) :
    (((within n hs).filter choose).map History.entry).map some =
      ((hs.zipIdx.filter fun s => s.1.log == some n && choose s.1).map (·.2)).map l.entryOf := by
  have chosen : (within n hs).filter choose =
      (hs.zipIdx.filter fun s => s.1.log == some n && choose s.1).map (·.1) := by
    rw [within, List.filter_filter, ← List.zipIdx_map_fst 0 hs, List.filter_map,
      List.zipIdx_map_fst]
    simp only [Function.comp_def, Bool.and_comm]
  rw [chosen, List.map_map, List.map_map, List.map_map]
  refine List.map_congr_left fun pair listed => ?_
  obtain ⟨h, k⟩ := pair
  obtain ⟨member, kept⟩ := List.mem_filter.mp listed
  have found : hs[k]? = some h := List.mem_zipIdx_iff_getElem?.mp member
  have log : h.log = some n := beq_iff_eq.mp (Bool.and_eq_true_iff.mp kept).1
  simp only [Function.comp_apply, entry_is_told tells, found, Option.bind_some, log,
    Option.map_some]

/-- The history of an exchange after it began and any calls followed. -/
theorem told_since_begin {l : Ledger} (reached : Reached l) (now : Time.Instant)
    (request : Http.Request) (connection : Option String) (calls : List Call) :
    ∃ hs, Tells hs (l.run (.begin now request connection :: calls)) ∧
      hs[l.traces.length]? = some { opening l now request connection with
        touches := callsOn l.traces.length calls } := by
  obtain ⟨hs, tells⟩ := reached_is_told reached
  have begun : (hs ++ [opening l now request connection])[l.traces.length]? =
      some (opening l now request connection) := by
    rw [tells_length tells, List.getElem?_concat_length]
  exact ⟨_, tells_run (tells_begin tells now request connection) calls, history_after begun calls⟩

/-- The entry of an exchange after it began and any calls followed. -/
theorem entry_since_begin {l : Ledger} (reached : Reached l) (now : Time.Instant)
    (request : Http.Request) (connection : Option String) (calls : List Call) :
    (l.run (.begin now request connection :: calls)).entryOf l.traces.length =
      l.recorder.runningLog?.map fun _ =>
        { opening l now request connection with
          touches := callsOn l.traces.length calls }.entry := by
  obtain ⟨hs, tells, found⟩ := told_since_begin reached now request connection calls
  rw [entry_is_told tells, found]
  rfl

end Wirelog.ExchangeHistory
