import Wirelog.Proofs.ExchangeHistory

/-! The life of an exchange. Which call may move it from where is set down once, as a relation,
apart from the table that the recorder consults. Everything else follows from it: a call that the
relation does not allow leaves the whole ledger as it is, a finished exchange takes no call at all,
and letting go of an exchange always finishes it. A call may panic over the sum of the phases, but
it has moved the exchange and written its entry by then, so a panic changes none of this. -/
namespace Wirelog.ExchangeLifecycle
open Recording Recording.Overlap RecorderLaws ExchangeHistory

/-- A call that an exchange takes in a phase, and the phase after it. -/
inductive Advances : Phase → Touch → Phase → Prop where
  | sent : Advances .opened (.event (.dispatched request timings)) .dispatched
  | answered : Advances .dispatched (.event (.responseStarted wait)) .responding
  | received : Advances .responding (.event (.responseReceived receive)) .responding
  | short : Advances .opened (.event (.completed response)) .complete
  | completed : Advances .responding (.event (.completed response)) .complete
  | failed (underway : phase.isFinal = false) : Advances phase (.event (.failed reason)) .failed
  | remarked (underway : phase.isFinal = false) : Advances phase (.event (.remarked text)) phase
  | dropped (underway : phase.isFinal = false) : Advances phase .drop .failed

/-- The moves from one phase to another. -/
inductive Moves : Phase → Phase → Prop where
  | sent : Moves .opened .dispatched
  | answered : Moves .dispatched .responding
  | completed : Moves .responding .complete
  | short : Moves .opened .complete
  | failed (underway : phase.isFinal = false) : Moves phase .failed

/-- A finished entry has the response that completed the exchange, or says in two places why there
is none. -/
inductive Finished (flags : Flags) (touches : List Touch) : Phase → Archive.Entry → Prop where
  | complete (response : Http.Response) (given : .event (.completed response) ∈ touches)
      (recorded : e.response = responseRecord flags response) :
      Finished flags touches .complete e
  | failed (reason : String) (given : .failed reason ∈ touches.map Touch.toEvent)
      (response : e.response = { error := some reason }) (comment : e.comment = some reason) :
      Finished flags touches .failed e

theorem advances_iff {phase next : Phase} {t : Touch} :
    Advances phase t next ↔ phase.after? t.toEvent = some next := by
  constructor
  · intro advances
    cases advances with
    | failed underway | remarked underway | dropped underway =>
      cases phase <;> first | rfl | cases underway
    | _ => rfl
  · intro counted
    cases t with
    | drop => cases phase <;> cases counted <;> exact .dropped rfl
    | event event =>
      cases event with
      | dispatched request timings => cases phase <;> cases counted; exact .sent
      | responseStarted wait => cases phase <;> cases counted; exact .answered
      | responseReceived receive => cases phase <;> cases counted; exact .received
      | completed response =>
        cases phase <;> cases counted
        · exact .short
        · exact .completed
      | failed reason => cases phase <;> cases counted <;> exact .failed rfl
      | remarked text => cases phase <;> cases counted <;> exact .remarked rfl

theorem advances_moves {phase next : Phase} {t : Touch} (advances : Advances phase t next) :
    next = phase ∨ Moves phase next := by
  cases advances with
  | sent => exact .inr .sent
  | answered => exact .inr .answered
  | received => exact .inl rfl
  | short => exact .inr .short
  | completed => exact .inr .completed
  | failed underway | dropped underway => exact .inr (.failed underway)
  | remarked underway => exact .inl rfl

theorem moves_underway {phase next : Phase} (moves : Moves phase next) :
    phase.isFinal = false := by
  cases moves with
  | failed underway => exact underway
  | _ => rfl

/-! ## One exchange by itself -/

/-- A finished exchange stays as it is, whatever is called. -/
theorem final_stays {flags : Flags} {state : Phase × Archive.Entry}
    (final : state.1.isFinal = true) (events : List Event) :
    events.foldl (advance flags) state = state := by
  induction events with
  | nil => rfl
  | cons event rest ih => rw [List.foldl_cons, advance_final final, ih]

theorem failed_is_final (flags : Flags) (state : Phase × Archive.Entry) (reason : String) :
    (advance flags state (.failed reason)).1.isFinal = true := by
  cases underway : state.1.isFinal with
  | true => rw [advance_final underway, underway]
  | false =>
    rw [advance_failed underway]
    rfl

/-- An exchange that was let go of is finished, whenever that was. -/
theorem dropped_is_final {flags : Flags} {touches : List Touch} (dropped : .drop ∈ touches)
    (state : Phase × Archive.Entry) :
    ((touches.map Touch.toEvent).foldl (advance flags) state).1.isFinal = true := by
  induction touches generalizing state with
  | nil => cases dropped
  | cons t rest ih =>
    rw [List.map_cons, List.foldl_cons]
    rcases List.mem_cons.mp dropped with rfl | later
    · have final := failed_is_final flags state abandoned
      rw [show Touch.drop.toEvent = .failed abandoned from rfl, final_stays final]
      exact final
    · exact ih later _

/-- Until an exchange is finished its entry has no response; then it is a finished one. -/
def Shaped (flags : Flags) (touches : List Touch) (state : Phase × Archive.Entry) : Prop :=
  (state.1.isFinal = false → state.2.response = {}) ∧
    (state.1.isFinal = true → Finished flags touches state.1 state.2)

theorem finished_later {flags : Flags} {touches : List Touch} {phase : Phase} {e : Archive.Entry}
    (finished : Finished flags touches phase e) (t : Touch) :
    Finished flags (touches ++ [t]) phase e := by
  cases finished with
  | complete response given recorded =>
    exact .complete response (List.mem_append_left _ given) recorded
  | failed reason given response comment =>
    exact .failed reason (by simpa using .inl (List.mem_map.mp given)) response comment

private theorem shaped_advance {flags : Flags} {touches : List Touch}
    {state : Phase × Archive.Entry} (shaped : Shaped flags touches state) (t : Touch) :
    Shaped flags (touches ++ [t]) (advance flags state t.toEvent) := by
  obtain ⟨phase, e⟩ := state
  cases counted : phase.after? t.toEvent with
  | none =>
    simp only [advance, counted]
    exact ⟨shaped.1, fun final => finished_later (shaped.2 final) t⟩
  | some next =>
    simp only [advance, counted]
    have broken (underway : phase.isFinal = false) (reason : String) :
        ((Event.failed reason).apply flags e).response = { error := some reason } :=
      congrArg (fun r : Archive.ResponseRecord => { r with error := some reason })
        (shaped.1 underway)
    cases advances_iff.mpr counted with
    | sent | answered | received => exact ⟨fun _ => shaped.1 rfl, fun final => by cases final⟩
    | remarked underway =>
      exact ⟨fun _ => shaped.1 underway, fun final => absurd final (by simp [underway])⟩
    | short | completed =>
      exact ⟨fun underway => (by cases underway), fun _ => .complete _ (by simp) rfl⟩
    | failed underway | dropped underway =>
      refine ⟨fun underway' => (by cases underway'), fun _ => .failed _ ?_ (broken underway _) rfl⟩
      simp [Touch.toEvent]

private theorem shaped_advances {flags : Flags} {given : List Touch}
    {state : Phase × Archive.Entry} (shaped : Shaped flags given state) (touches : List Touch) :
    Shaped flags (given ++ touches) ((touches.map Touch.toEvent).foldl (advance flags) state) := by
  induction touches generalizing given state with
  | nil => simpa using shaped
  | cons t rest ih => simpa using ih (shaped_advance shaped t)

theorem history_is_shaped (h : History) : Shaped h.flags h.touches h.state :=
  @shaped_advances h.flags [] (.opened, h.first) ⟨fun _ => rfl, fun final => by cases final⟩ h.touches

/-! ## One exchange among others -/

/-- The entry of an exchange as the document of its log shows it. -/
def viewed? (l : Ledger) (k : Nat) : Option Archive.Entry :=
  (l.traces[k]?.bind Trace.place).bind fun place =>
    (l.recorder.log? place.log).bind fun log => log.document.entries[place.entry]?

/-- The document shows what the owner of the exchange sees. -/
theorem viewed_is_entry (l : Ledger) (k : Nat) : viewed? l k = l.entryOf k := by
  simp only [viewed?, Ledger.entryOf]
  cases l.traces[k]? <;> rfl

section Calls
variable {l : Ledger} {k : Nat} {t : Trace}

/-- A call that an exchange takes moves its phase and nothing else that its owner holds. -/
theorem touch_counted (held : l.traces[k]? = some t) {call : Touch} {next : Phase}
    (advances : Advances t.phase call next) :
    (l.touch k call).traces[k]? = some { t with phase := next } := by
  have bound := (List.getElem?_eq_some_iff.mp held).1
  simp only [Ledger.touch, held, Recorder.record, advances_iff.mp advances]
  exact List.getElem?_set_self bound

/-- A call that an exchange does not take changes nothing at all. -/
theorem touch_refused (held : l.traces[k]? = some t) {call : Touch}
    (refused : ∀ next, ¬ Advances t.phase call next) : l.touch k call = l := by
  have uncounted : t.phase.after? call.toEvent = none := by
    cases counted : t.phase.after? call.toEvent with
    | none => rfl
    | some next => exact absurd (advances_iff.mpr counted) (refused next)
  obtain ⟨bound, rfl⟩ := List.getElem?_eq_some_iff.mp held
  simp only [Ledger.touch, held, Recorder.record, uncounted, List.set_getElem_self]

/-- A call that an exchange takes changes its entry, if it has one. -/
theorem entry_touched (held : l.traces[k]? = some t) {call : Touch} {next : Phase}
    (advances : Advances t.phase call next) :
    (l.touch k call).entryOf k = (l.recorder.snapshot t).map (call.toEvent.apply t.flags) := by
  rw [Ledger.entryOf, touch_counted held advances]
  simp only [Ledger.touch, held, Recorder.record, advances_iff.mp advances, Option.bind_some,
    Recorder.snapshot]
  cases t.place with
  | none => rfl
  | some place => exact entry_onEntry l.recorder place _

/-- A call panics just where the exchange takes it and the phases that it leaves have no sum. -/
theorem panics_iff (held : l.traces[k]? = some t) (call : Touch) :
    l.panics k call = true ↔ (∃ next, Advances t.phase call next) ∧
      ∃ e, (l.touch k call).entryOf k = some e ∧ e.timings.total? = none := by
  simp only [Ledger.panics, held, Option.any_some, Recorder.panics, Bool.and_eq_true]
  constructor
  · rintro ⟨counts, overflows⟩
    obtain ⟨next, counted⟩ := Option.isSome_iff_exists.mp counts
    have advances := advances_iff.mpr counted
    obtain ⟨e, found, none⟩ := (Option.any_eq_true ..).mp overflows
    refine ⟨⟨next, advances⟩, call.toEvent.apply t.flags e, ?_, Option.isNone_iff_eq_none.mp none⟩
    rw [entry_touched held advances, found, Option.map_some]
  · rintro ⟨⟨next, advances⟩, e, shown, none⟩
    rw [entry_touched held advances] at shown
    obtain ⟨before, found, rfl⟩ := Option.map_eq_some_iff.mp shown
    refine ⟨Option.isSome_iff_exists.mpr ⟨next, advances_iff.mp advances⟩, ?_⟩
    rw [found]
    exact Option.isNone_iff_eq_none.mpr none

theorem final_quiet (held : l.traces[k]? = some t) (final : t.phase.isFinal = true)
    (call : Touch) : l.panics k call = false := by
  rw [Bool.eq_false_iff]
  intro panics
  obtain ⟨⟨next, advances⟩, -⟩ := (panics_iff held call).mp panics
  cases (final_refuses final call.toEvent).symm.trans (advances_iff.mp advances)

/-- No call changes more of what an owner holds than the phase, and that by a move. -/
theorem trace_after (held : l.traces[k]? = some t) (call : Call) :
    ∃ next, (l.after call).traces[k]? = some { t with phase := next } ∧
      (next = t.phase ∨ Moves t.phase next) := by
  cases call with
  | begin now request connection =>
    have bound := (List.getElem?_eq_some_iff.mp held).1
    exact ⟨t.phase, (List.getElem?_append_left bound).trans held, .inl rfl⟩
  | touch j call =>
    by_cases same : j = k
    · subst same
      by_cases taken : ∃ next, Advances t.phase call next
      · obtain ⟨next, advances⟩ := taken
        exact ⟨next, touch_counted held advances, advances_moves advances⟩
      · have unchanged := touch_refused held (not_exists.mp taken)
        exact ⟨t.phase, (congrArg (·.traces[j]?) unchanged).trans held, .inl rfl⟩
    · have kept : (l.touch j call).traces[k]? = l.traces[k]? := by
        cases other : l.traces[j]? with
        | none => simp only [Ledger.touch, other]
        | some u =>
          simp only [Ledger.touch, other]
          exact List.getElem?_set_ne same
      exact ⟨t.phase, kept.trans held, .inl rfl⟩
  | newPage now ref title =>
    refine ⟨t.phase, ?_, .inl rfl⟩
    simp only [Ledger.after, Ledger.step]
    split <;> exact held
  | _ => exact ⟨t.phase, held, .inl rfl⟩

/-- The owner of a finished exchange sees nothing happen to it any more. -/
theorem final_trace_stays (held : l.traces[k]? = some t) (final : t.phase.isFinal = true)
    (later : List Call) : (l.run later).traces[k]? = some t := by
  induction later generalizing l with
  | nil => exact held
  | cons call rest ih =>
    obtain ⟨next, moved, same | moves⟩ := trace_after held call
    · subst same
      exact ih moved
    · exact absurd final (by simp [moves_underway moves])

end Calls

/-- Nothing that happens later changes the entry of a finished exchange. -/
theorem final_entry_stays {hs : List History} {l : Ledger} (tells : Tells hs l) {k : Nat}
    {h : History} (found : hs[k]? = some h) (final : h.phase.isFinal = true) (later : List Call) :
    (l.run later).entryOf k = l.entryOf k := by
  have settled : { h with touches := h.touches ++ callsOn k later : History }.state = h.state := by
    simp only [History.state, List.map_append, List.foldl_append]
    exact final_stays final _
  rw [entry_is_told (tells_run tells later), entry_is_told tells, history_after found, found]
  simp only [Option.bind_some, History.entry, settled]

/-- Every exchange of every run begins open and moves along its life cycle alone, also by calls that
panic. A call that it does not take leaves everything as it is, and one that it takes panics just
where it leaves phases without a sum. Once it is finished no call on it panics, and neither its
owner nor the document of its log sees it change; once it was let go of it is finished and its entry
says how. -/
theorem exchange_follows_lifecycle {l : Ledger} (reached : Reached l) (now : Time.Instant)
    (request : Http.Request) (connection : Option String) (calls : List Call) :
    let k := l.traces.length
    let m := l.run (.begin now request connection :: calls)
    ∃ t, m.traces[k]? = some t ∧
      (callsOn k calls = [] → t.phase = .opened) ∧
      (∀ call, ∃ t', (m.after call).traces[k]? = some t' ∧
        (t'.phase = t.phase ∨ Moves t.phase t'.phase)) ∧
      (∀ call,
        (∃ next, Advances t.phase call next ∧
          (m.after (.touch k call)).traces[k]? = some { t with phase := next }) ∨
        (∀ next, ¬ Advances t.phase call next) ∧ m.after (.touch k call) = m) ∧
      (∀ call, m.panics k call = true ↔ (∃ next, Advances t.phase call next) ∧
        ∃ e, (m.after (.touch k call)).entryOf k = some e ∧ e.timings.total? = none) ∧
      (t.phase.isFinal = true → ∀ later,
        (m.run later).traces[k]? = some t ∧ (m.run later).entryOf k = m.entryOf k ∧
          viewed? (m.run later) k = m.entryOf k ∧ ∀ call, (m.run later).panics k call = false) ∧
      (.drop ∈ callsOn k calls → t.phase.isFinal = true ∧
        ∀ e, m.entryOf k = some e → Finished t.flags (callsOn k calls) t.phase e) := by
  intro k m
  obtain ⟨hs, tells, found⟩ := told_since_begin reached now request connection calls
  generalize history : { opening l now request connection with touches := callsOn k calls } = h
    at found
  have touches : h.touches = callsOn k calls := history ▸ rfl
  have held : m.traces[k]? = some (traceOf hs k h) := (tells.traces k).trans (found ▸ rfl)
  refine ⟨_, held, ?_, fun call => ?_, fun call => ?_, panics_iff held, fun final later => ?_,
    fun dropped => ?_⟩
  · intro untouched
    simp [traceOf, History.phase, History.state, touches, untouched]
  · obtain ⟨next, moved, step⟩ := trace_after held call
    exact ⟨_, moved, step⟩
  · by_cases taken : ∃ next, Advances h.phase call next
    · obtain ⟨next, advances⟩ := taken
      exact .inl ⟨next, advances, touch_counted held advances⟩
    · exact .inr ⟨not_exists.mp taken, touch_refused held (not_exists.mp taken)⟩
  · have entry := final_entry_stays tells found final later
    have stays := final_trace_stays held final later
    exact ⟨stays, entry, (viewed_is_entry _ _).trans entry, final_quiet stays final⟩
  · have final : h.phase.isFinal = true := dropped_is_final (touches ▸ dropped) _
    refine ⟨final, fun e shown => ?_⟩
    obtain ⟨_, recorded, rfl⟩ : ∃ n, h.log = some n ∧ h.entry = e := by
      rw [entry_is_told tells, found] at shown
      exact Option.map_eq_some_iff.mp shown
    exact touches ▸ (history_is_shaped h).2 final

/-- An exchange whose first call panics over two phases that are too long together, that is
completed too early and let go of. -/
theorem lifecycle_through_a_panic :
    let l := (Ledger.new {}).run [.newLog .epoch none none]
    let long := Time.Span.ofSeconds 18446744073709551615
    let sent : Touch :=
      .event (.dispatched { uri := {} } { blocked := some long, dns := some long })
    let calls : List Call := [.touch 0 sent, .touch 0 (.event (.completed {})), .touch 0 .drop]
    let begun := l.after (.begin .epoch { uri := {} } none)
    let m := l.run (.begin .epoch { uri := {} } none :: calls)
    Reached l ∧ begun.panics 0 sent = true ∧ ∃ t, m.traces[0]? = some t ∧ t.phase.isFinal = true ∧
      (∀ later, (m.run later).entryOf 0 = m.entryOf 0) ∧
      ∀ e, m.entryOf 0 = some e → Finished t.flags (callsOn 0 calls) t.phase e := by
  intro l long sent calls begun m
  obtain ⟨t, held, -, -, -, -, settled, dropped⟩ :=
    exchange_follows_lifecycle (l := l) ⟨_, _, rfl⟩ .epoch { uri := {} } none calls
  have last : Touch.drop ∈ callsOn l.traces.length calls := .tail _ (.tail _ (.head _))
  obtain ⟨final, finished⟩ := dropped last
  have panics : begun.panics 0 sent = true := by decide
  exact ⟨⟨_, _, rfl⟩, panics, t, held, final, fun later => (settled final later).2.1, finished⟩

end Wirelog.ExchangeLifecycle
