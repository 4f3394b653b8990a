import Mathlib.Algebra.Order.BigOperators.Group.List
import Mathlib.Algebra.Ring.Int.Defs
import Mathlib.Algebra.Ring.Nat
import Wirelog.Proofs.ExchangeLifecycle

/-! The time of an exchange. It is measured in parts, by calls that may be missing, come again or
come out of order, and the entry can be read between any two of them. What an entry shows goes
back to the calls that count: the parts are theirs, and the time is the sum of the parts. Times
are 64-bit numbers, so there is a sum as long as it is one; a call that finds none panics, and the
time stays what it was until a later call finds one again. -/
namespace Wirelog.EntryTimes
open Recording Recording.Overlap Time RecorderLaws ExchangeHistory ExchangeLifecycle

/-- The parts of an exchange as calls told them. -/
structure Spans where
  blocked : Option Span := none
  dns : Option Span := none
  connect : Option Span := none
  ssl : Option Span := none
  send : Span := 0
  wait : Span := 0
  receive : Span := 0

/-- What an event tells of them. -/
def Spans.heed (s : Spans) : Event → Spans
  | .dispatched _ t =>
    { s with
      blocked := t.blocked
      dns := t.dns
      connect := t.connect
      ssl := t.ssl
      send := t.send }
  | .responseStarted wait => { s with wait }
  | .responseReceived receive => { s with receive }
  | _ => s

/-- The parts that make up the time of an exchange. The TLS handshake is a part of connecting. -/
def Spans.counted (s : Spans) : List Span :=
  s.blocked.toList ++ s.dns.toList ++ s.connect.toList ++ [s.send, s.wait, s.receive]

/-- Their sum in whole milliseconds. -/
def Spans.millis (s : Spans) : Nat :=
  (s.counted.map Span.toMillis).sum

/-- The parts as an entry shows them. -/
def Spans.timings (s : Spans) : Archive.Timings :=
  { blocked := measured s.blocked
    dns := measured s.dns
    connect := measured s.connect
    ssl := measured s.ssl
    send := s.send.recorded
    wait := s.wait.recorded
    receive := s.receive.recorded }

/-- Phase and parts after an event, which counts only in order. -/
def heed (state : Phase × Spans) (event : Event) : Phase × Spans :=
  match state.1.after? event with
  | some phase => (phase, state.2.heed event)
  | none => state

/-- The parts that calls on an exchange told. -/
def spansOf (touches : List Touch) : Spans :=
  ((touches.map Touch.toEvent).foldl heed (.opened, {})).2

/-- An entry that shows some parts and the time that they come to, if they come to any. -/
structure Shows (s : Spans) (e : Archive.Entry) : Prop where
  timings : e.timings = s.timings
  time : ∀ total, s.timings.total? = some total → e.time = total

/-! ## What calls leave behind -/

theorem shows_apply {s : Spans} {e : Archive.Entry} (shows : Shows s e) (flags : Flags)
    (event : Event) : Shows (s.heed event) (event.apply flags e) := by
  suffices same : (event.write flags e).timings = (s.heed event).timings by
    refine ⟨same, fun total sum => ?_⟩
    rw [← same] at sum
    exact (congrArg (Option.getD · _) sum).trans rfl
  cases event with
  | dispatched request t => simp only [Event.write, shows.timings, Spans.heed, Spans.timings]
  | responseStarted wait => simp only [Event.write, shows.timings, Spans.heed, Spans.timings]
  | responseReceived receive => simp only [Event.write, shows.timings, Spans.heed, Spans.timings]
  | _ => exact shows.timings

/-- Parts and entry of an exchange in one phase. -/
def Agree (told : Phase × Spans) (state : Phase × Archive.Entry) : Prop :=
  told.1 = state.1 ∧ Shows told.2 state.2

theorem agree_advance {told : Phase × Spans} {state : Phase × Archive.Entry}
    (agree : Agree told state) (flags : Flags) (event : Event) :
    Agree (heed told event) (advance flags state event) := by
  obtain ⟨same, shows⟩ := agree
  unfold heed advance
  rw [same]
  cases state.1.after? event with
  | none => exact ⟨same, shows⟩
  | some next => exact ⟨rfl, shows_apply shows flags event⟩

theorem agree_events {told : Phase × Spans} {state : Phase × Archive.Entry}
    (agree : Agree told state) (flags : Flags) (events : List Event) :
    Agree (events.foldl heed told) (events.foldl (advance flags) state) := by
  induction events generalizing told state with
  | nil => exact agree
  | cons event rest ih => exact ih (agree_advance agree flags event)

/-- The entry of an exchange shows what the calls on it told. -/
theorem entry_shows (h : History) : Shows (spansOf h.touches) h.entry := by
  have untimed : ({} : Spans).timings.total? = some 0 := by decide
  have begun : Agree (.opened, {}) (.opened, h.first) :=
    ⟨rfl, rfl, fun total sum => Option.some.inj (untimed.symm.trans sum)⟩
  exact (agree_events begun h.flags (h.touches.map Touch.toEvent)).2

/-! ## Sums -/

/-- A recorded time is the number of whole milliseconds, up to the greatest number. -/
theorem toInt_recorded (s : Span) : s.recorded.toInt = (min s.toMillis Span.maxMillis : Nat) := by
  have top : Span.maxMillis = 9223372036854775807 := by decide
  apply Int64.toInt_ofNat_of_lt
  omega

theorem recorded_nonneg (s : Span) : 0 ≤ s.recorded := by
  rw [Int64.le_iff_toInt_le, toInt_recorded]
  exact Int.natCast_nonneg _

/-- A phase is shown as not measured or as a time. -/
theorem measured_cases (s : Option Span) : measured s = -1 ∨ 0 ≤ measured s := by
  cases s with
  | none => exact .inl rfl
  | some s => exact .inr (recorded_nonneg s)

theorem measured_filter (s : Option Span) :
    [measured s].filter (0 ≤ ·) = s.toList.map Span.recorded := by
  cases s with
  | none => rfl
  | some s => simp [measured, recorded_nonneg]

/-- The phases that count are the recorded parts. -/
theorem phases_timings (s : Spans) :
    s.timings.phases.filter (0 ≤ ·) = s.counted.map Span.recorded := by
  have split : s.timings.phases =
      [measured s.blocked] ++ [measured s.dns] ++ [measured s.connect] ++
        [s.send.recorded, s.wait.recorded, s.receive.recorded] := rfl
  rw [split]
  simp only [List.filter_append, measured_filter, Spans.counted, List.map_append]
  simp [recorded_nonneg]

/-- Recorded times are exact as long as their sum is a number. -/
theorem sum_recorded (parts : List Span) (fits : (parts.map Span.toMillis).sum ≤ Span.maxMillis) :
    ((parts.map Span.recorded).map Int64.toInt).sum = (parts.map Span.toMillis).sum := by
  induction parts with
  | nil => rfl
  | cons s rest ih =>
    simp only [List.map_cons, List.sum_cons] at fits ⊢
    rw [ih (by omega), toInt_recorded]
    omega

/-- An addition gives the number that is the sum, if there is one. -/
theorem add?_iff {a b c : Int64} : Archive.add? a b = some c ↔ c.toInt = a.toInt + b.toInt := by
  unfold Archive.add?
  constructor
  · intro added
    split at added
    case isTrue exact => exact Option.some.inj added ▸ exact
    case isFalse => cases added
  · intro exact
    have same : c = a + b := by
      rw [← Int64.toInt_inj, Int64.toInt_add, ← exact]
      exact (Int.bmod_eq_of_le c.le_toInt c.toInt_lt).symm
    rw [if_pos (same ▸ exact), same]

/-- A number is a sum of numbers that are not negative just when adding them up gives it: a sum on
the way is no greater than the last. -/
theorem sum_iff {parts : List Int64} (positive : ∀ part ∈ parts, 0 ≤ part.toInt)
    (earlier total : Int64) :
    parts.foldlM Archive.add? earlier = some total ↔
      total.toInt = earlier.toInt + (parts.map Int64.toInt).sum := by
  induction parts generalizing earlier with
  | nil =>
    rw [List.foldlM_nil, List.map_nil, List.sum_nil, Int.add_zero, Int64.toInt_inj]
    exact Option.some.injEq earlier total ▸ eq_comm
  | cons part rest ih =>
    obtain ⟨first, later⟩ := List.forall_mem_cons.mp positive
    rw [List.foldlM_cons, List.map_cons, List.sum_cons, ← Int.add_assoc]
    constructor
    · intro added
      obtain ⟨sum, step, onward⟩ := Option.bind_eq_some_iff.mp added
      rw [(ih later sum).mp onward, add?_iff.mp step]
    · intro exact
      have more : 0 ≤ (rest.map Int64.toInt).sum :=
        List.sum_nonneg (List.forall_mem_map.mpr later)
      have top := total.toInt_lt
      have bottom := earlier.le_toInt
      have step : (Int64.ofInt (earlier.toInt + part.toInt)).toInt = earlier.toInt + part.toInt :=
        Int64.toInt_ofInt_of_le (by omega) (by omega)
      refine Option.bind_eq_some_iff.mpr ⟨_, add?_iff.mpr step, (ih later _).mpr ?_⟩
      rw [step, exact]

/-- A total is the exact sum of the phases that count. -/
theorem total?_sum (t : Archive.Timings) (total : Int64) :
    t.total? = some total ↔
      total.toInt = ((t.phases.filter (0 ≤ ·)).map Int64.toInt).sum := by
  rw [Archive.Timings.total?, sum_iff, Int64.toInt_zero, Int.zero_add]
  intro part counts
  have positive : 0 ≤ part := by simpa using (List.mem_filter.mp counts).2
  exact Int64.le_iff_toInt_le.mp positive

/-- The times of an entry add up: each phase is measured or marked as not, and together they are the
time. -/
structure AddsUp (s : Spans) (e : Archive.Entry) : Prop where
  /-- Phases that need not happen are not measured or times. -/
  optional : ∀ t ∈ [e.timings.blocked, e.timings.dns, e.timings.connect, e.timings.ssl],
    t = -1 ∨ 0 ≤ t
  /-- The other phases are times. -/
  always : ∀ t ∈ [e.timings.send, e.timings.wait, e.timings.receive], 0 ≤ t
  /-- The time is the sum of the measured phases other than the TLS handshake. -/
  time :
    let phases := [e.timings.blocked, e.timings.dns, e.timings.connect, e.timings.send,
      e.timings.wait, e.timings.receive]
    e.time.toInt = ((phases.filter (0 ≤ ·)).map Int64.toInt).sum
  /-- This is the sum of what the calls told. -/
  told : e.time.toInt = s.millis

theorem adds_up {s : Spans} {e : Archive.Entry} (shows : Shows s e)
    (fits : s.millis ≤ Span.maxMillis) : AddsUp s e := by
  have sum := sum_recorded s.counted fits
  have told : e.time.toInt = s.millis := by
    have top : Span.maxMillis = 9223372036854775807 := by decide
    have exact : (Int64.ofNat s.millis).toInt = s.millis := Int64.toInt_ofNat_of_lt (by omega)
    have total : s.timings.total? = some (Int64.ofNat s.millis) := by
      rw [total?_sum, phases_timings, exact, sum, Spans.millis]
    rw [shows.time _ total, exact]
  constructor
  case optional => simp [shows.timings, Spans.timings, measured_cases]
  case always => simp [shows.timings, Spans.timings, recorded_nonneg]
  case time =>
    change e.time.toInt = ((e.timings.phases.filter (0 ≤ ·)).map Int64.toInt).sum
    rw [told, shows.timings, phases_timings, sum, Spans.millis]
  case told => exact told

/-- The entry of an exchange shows what the calls on it told, whatever else was called. -/
theorem shows_since_begin {l : Ledger} (reached : Reached l) (now : Time.Instant)
    (request : Http.Request) (connection : Option String) (calls : List Call) {e : Archive.Entry}
    (viewed : viewed? (l.run (.begin now request connection :: calls)) l.traces.length = some e) :
    Shows (spansOf (callsOn l.traces.length calls)) e := by
  rw [viewed_is_entry, entry_since_begin reached now request connection calls] at viewed
  obtain ⟨_, _, rfl⟩ := Option.map_eq_some_iff.mp viewed
  exact entry_shows
    { opening l now request connection with touches := callsOn l.traces.length calls }

/-- The entry of an exchange adds up at every point of every run, whatever else is called: it is
what the calls that count told, and a call out of order changes nothing. -/
theorem entry_times_add_up {l : Ledger} (reached : Reached l) (now : Time.Instant)
    (request : Http.Request) (connection : Option String) (calls : List Call)
    (fits : (spansOf (callsOn l.traces.length calls)).millis ≤ Span.maxMillis) :
    let k := l.traces.length
    let m := l.run (.begin now request connection :: calls)
    (viewed? m k).isSome = l.recorder.runningLog?.isSome ∧
      (∀ e, viewed? m k = some e → AddsUp (spansOf (callsOn k calls)) e) ∧
      ∀ t, m.traces[k]? = some t → ∀ call, (∀ next, ¬Advances t.phase call next) →
        m.after (.touch k call) = m := by
  intro k m
  have entry : viewed? m k = _ :=
    (viewed_is_entry m k).trans (entry_since_begin reached now request connection calls)
  refine ⟨entry ▸ Option.isSome_map, ?adds, ?ignored⟩
  case adds =>
    intro e viewed
    exact adds_up (shows_since_begin reached now request connection calls viewed) fits
  case ignored =>
    intro t held call refused
    exact touch_refused held refused

/-- An exchange that is measured out of order and then in order, and read while it is under way. -/
theorem times_of_an_exchange_under_way :
    let l := (Ledger.new {}).run [.newLog .epoch none none]
    let calls : List Call :=
      [.touch 0 (.event (.responseStarted (Span.ofMillis 9))),
        .touch 0 (.event (.dispatched { uri := {} }
          { connect := some (Span.ofMillis 4), ssl := some (Span.ofMillis 3) })),
        .touch 0 (.event (.responseStarted (Span.ofMillis 2)))]
    let m := l.run (.begin .epoch { uri := {} } none :: calls)
    (spansOf (callsOn 0 calls)).millis = 6 ∧
      ∀ e, viewed? m 0 = some e → AddsUp (spansOf (callsOn 0 calls)) e := by
  intro l calls m
  have millis : (spansOf (callsOn 0 calls)).millis = 6 := by decide
  have fits : (spansOf (callsOn l.traces.length calls)).millis ≤ Span.maxMillis := by decide
  have sums := entry_times_add_up (l := l) ⟨_, _, rfl⟩ .epoch { uri := {} } none calls fits
  exact ⟨millis, sums.2.1⟩

end Wirelog.EntryTimes
