import Mathlib.Algebra.Order.BigOperators.Group.List
import Wirelog.Proofs.ArchiveFiles
import Wirelog.Proofs.EntryTimes

/-! Totals that pass the greatest number. Each phase of an exchange is cut at the greatest number
that an archive can write, and a file may give any numbers at all, so the sum of a few phases may
not be one. The total is right as long as the sum is a number; beyond that an addition on the way
overflows, and whoever asked for the total panics. An exchange asks for it with every call that it
takes, the one included that lets go of it while the panic unwinds, and that second panic ends the
process. -/
namespace Wirelog.TimeTotals
open Archive ArchiveFiles Recording Recording.Overlap Time
open RecorderLaws ExchangeHistory ExchangeLifecycle EntryTimes

/-- The greatest number of milliseconds. -/
def greatest : Int :=
  Int64.maxValue.toInt

/-- The measured phases other than the TLS handshake. -/
def measuredPhases (t : Timings) : List Int :=
  ([t.blocked, t.dns, t.connect, t.send, t.wait, t.receive].filter (0 ≤ ·)).map Int64.toInt

/-- Their exact sum. -/
def exactTotal (t : Timings) : Int :=
  (measuredPhases t).sum

/-- No addition on the way to the sum passes the greatest number. -/
def StaysWithin (t : Timings) : Prop :=
  ∀ front, front <+: measuredPhases t → front.sum ≤ greatest

/-- The total is the sum up to the greatest number, reached without passing it. -/
structure Saturates (t : Timings) : Prop where
  total : ∃ total, t.total? = some total ∧ 0 ≤ total ∧ total.toInt = min (exactTotal t) greatest
  steps : StaysWithin t

variable {t : Timings}

/-! ## Sums of phases -/

theorem greatest_eq : greatest = 9223372036854775807 := rfl

/-- What is measured is not negative. -/
theorem measured_nonneg {phase : Int} (member : phase ∈ measuredPhases t) : 0 ≤ phase := by
  obtain ⟨word, kept, rfl⟩ := List.mem_map.mp member
  have nonneg : (0 : Int64) ≤ word := by simpa using (List.mem_filter.mp kept).2
  exact Int64.le_iff_toInt_le.mp nonneg

theorem exactTotal_nonneg (t : Timings) : 0 ≤ exactTotal t :=
  List.sum_nonneg fun _ member => measured_nonneg member

/-- So sums grow, and one on the way passes the greatest number only where the last one does. -/
theorem staysWithin_iff (t : Timings) : StaysWithin t ↔ exactTotal t ≤ greatest := by
  constructor
  · intro within
    exact within _ List.prefix_rfl
  · rintro total front ⟨rest, whole⟩
    have more : 0 ≤ rest.sum := List.sum_nonneg fun phase member =>
      measured_nonneg (t := t) (whole ▸ List.mem_append_right front member)
    rw [exactTotal, ← whole, List.sum_append] at total
    omega

theorem total?_iff (t : Timings) (total : Int64) :
    t.total? = some total ↔ total.toInt = exactTotal t :=
  total?_sum t total

/-- Every sum up to the greatest number is a total. -/
theorem total?_of_fits (fits : exactTotal t ≤ greatest) :
    ∃ total, t.total? = some total ∧ total.toInt = exactTotal t := by
  have nonneg := exactTotal_nonneg t
  rw [greatest_eq] at fits
  have exact : (Int64.ofInt (exactTotal t)).toInt = exactTotal t :=
    Int64.toInt_ofInt_of_le (by omega) (by omega)
  exact ⟨_, (total?_iff t _).mpr exact, exact⟩

theorem total?_none_iff (t : Timings) : t.total? = none ↔ greatest < exactTotal t := by
  constructor
  · intro none
    refine Int.not_le.mp fun fits => ?_
    obtain ⟨total, sum, -⟩ := total?_of_fits fits
    cases none.symm.trans sum
  · intro beyond
    refine Option.eq_none_iff_forall_ne_some.mpr fun total sum => ?_
    have top : total.toInt ≤ greatest := total.toInt_le
    rw [(total?_iff t total).mp sum] at top
    omega

theorem saturates_iff (t : Timings) : Saturates t ↔ exactTotal t ≤ greatest := by
  constructor
  · exact fun saturates => (staysWithin_iff t).mp saturates.steps
  · intro fits
    obtain ⟨total, sum, exact⟩ := total?_of_fits fits
    refine ⟨⟨total, sum, ?_, by rw [exact, Int.min_eq_left fits]⟩, (staysWithin_iff t).mpr fits⟩
    rw [Int64.le_iff_toInt_le, exact]
    exact exactTotal_nonneg t

/-! ## Timings that come up -/

/-- Any timings may be in a file. -/
theorem timings_loaded (t : Timings) :
    ∃ file log, Log.loadFile file = .ok log ∧ ∃ e ∈ log.entries, e.timings = t := by
  let e : Entry := { started := .epoch, request := { method := "", url := "" }, timings := t }
  let log : Log := { entries := [e] }
  have dated : DatedLog log :=
    datedLog_iff.mpr ⟨List.forall_mem_nil _, List.forall_mem_singleton.mpr rfl⟩
  exact ⟨log.save.toUTF8, log, loadFile_save dated, e, List.mem_singleton_self e, rfl⟩

/-- The phases of a recorded exchange are what calls told, each up to the greatest number. -/
theorem exactTotal_timings (s : Spans) :
    exactTotal s.timings =
      ((s.counted.map fun part => min part.toMillis Span.maxMillis).sum : Nat) := by
  have phases : measuredPhases s.timings = (s.counted.map Span.recorded).map Int64.toInt :=
    congrArg (List.map Int64.toInt) (phases_timings s)
  rw [exactTotal, phases]
  induction s.counted with
  | nil => rfl
  | cons part rest ih =>
    simp only [List.map_cons, List.sum_cons, ih, toInt_recorded]
    omega

/-- Letting go of an exchange while a panic unwinds ends the process just where the exchange is
under way and its phases have no sum: it fails then, which asks for the total once more. -/
theorem unwind_iff {m : Ledger} {k : Nat} {trace : Trace} (held : m.traces[k]? = some trace)
    {e : Entry} (viewed : viewed? m k = some e) :
    m.unwind [k] = none ↔ trace.phase.isFinal = false ∧ e.timings.total? = none := by
  have single : m.unwind [k] = none ↔ m.panics k .drop = true := by
    rw [Ledger.unwind]
    cases m.panics k .drop <;> simp [Ledger.unwind]
  have found : m.recorder.snapshot trace = some e := by
    rw [viewed_is_entry, Ledger.entryOf, held] at viewed
    exact viewed
  rw [single, panics_iff held]
  constructor
  · rintro ⟨⟨next, advances⟩, after, shown, none⟩
    rw [entry_touched held advances, found] at shown
    cases shown
    refine ⟨Bool.eq_false_iff.mpr fun final => ?_, none⟩
    cases (final_refuses final _).symm.trans (advances_iff.mp advances)
  · rintro ⟨underway, none⟩
    have advances : Advances trace.phase .drop .failed := .dropped underway
    refine ⟨⟨_, advances⟩, Touch.drop.toEvent.apply trace.flags e, ?_, none⟩
    rw [entry_touched held advances, found, Option.map_some]

/-- A total is the sum of the measured phases other than the TLS handshake. There is one, reached
without passing the greatest number, just when that sum does not pass it, and otherwise asking for
it panics. Any timings may come from a file. Where an exchange has them, they are those of the calls
on it, each phase up to the greatest number, and their total is its time, if there is one; if there
is none and the exchange is under way, letting go of it while a panic unwinds ends the process. -/
theorem totals_panic_past_greatest (t : Timings) :
    (Saturates t ↔ exactTotal t ≤ greatest) ∧
    (∀ total, t.total? = some total ↔ total.toInt = exactTotal t) ∧
    (t.total? = none ↔ greatest < exactTotal t) ∧
    (∃ file log, Log.loadFile file = .ok log ∧ ∃ e ∈ log.entries, e.timings = t) ∧
    ∀ l, Reached l → ∀ now request connection calls,
      let k := l.traces.length
      let m := l.run (.begin now request connection :: calls)
      ∀ e, viewed? m k = some e → e.timings = t →
        let told := (spansOf (callsOn k calls)).counted
        exactTotal t = ((told.map fun s => min s.toMillis Span.maxMillis).sum : Nat) ∧
          (∀ total, t.total? = some total → e.time = total) ∧
          ∀ trace, m.traces[k]? = some trace →
            (m.unwind [k] = none ↔ trace.phase.isFinal = false ∧ greatest < exactTotal t) := by
  refine ⟨saturates_iff t, total?_iff t, total?_none_iff t, timings_loaded t, ?_⟩
  rintro l reached now request connection calls k m e viewed rfl told
  have shows := shows_since_begin reached now request connection calls viewed
  refine ⟨?_, ?_, fun trace held => ?_⟩
  · rw [shows.timings]
    exact exactTotal_timings _
  · rw [shows.timings]
    exact shows.time
  · rw [unwind_iff held viewed, total?_none_iff]

/-- A call that tells of two phases which are longer than the greatest number of milliseconds. -/
def endless : Touch :=
  let long := Span.ofSeconds 18446744073709551615
  .event (.dispatched { uri := {} } { blocked := some long, dns := some long })

/-- They come to twice the greatest number, and letting go of the exchange while a panic unwinds
ends the process. -/
theorem endless_total :
    let l := (Ledger.new {}).run [.newLog .epoch none none]
    let m := l.run [.begin .epoch { uri := {} } none, .touch 0 endless]
    ∃ e, viewed? m 0 = some e ∧ exactTotal e.timings = 2 * greatest ∧ m.unwind [0] = none := by
  intro l m
  obtain ⟨e, viewed⟩ : ∃ e, viewed? m 0 = some e := ⟨_, rfl⟩
  obtain ⟨trace, held⟩ : ∃ trace, m.traces[0]? = some trace := ⟨_, rfl⟩
  obtain ⟨-, -, -, -, shown⟩ := totals_panic_past_greatest e.timings
  obtain ⟨sum, -, ends⟩ :=
    shown l ⟨_, _, rfl⟩ .epoch { uri := {} } none [.touch 0 endless] e viewed rfl
  have twice : exactTotal e.timings = 2 * greatest := sum.trans (by decide)
  have underway : trace.phase.isFinal = false := by cases held; rfl
  refine ⟨e, viewed, twice, (ends trace held).mpr ⟨underway, ?_⟩⟩
  rw [twice, greatest_eq]
  decide

/-- The call panics, and leaves phases without a total. -/
theorem endless_call_panics :
    let l := (Ledger.new {}).run [.newLog .epoch none none, .begin .epoch { uri := {} } none]
    l.panics 0 endless = true ∧
      ∃ e, viewed? (l.touch 0 endless) 0 = some e ∧ ¬Saturates e.timings := by
  intro l
  obtain ⟨e, viewed⟩ : ∃ e, viewed? (l.touch 0 endless) 0 = some e := ⟨_, rfl⟩
  have none : e.timings.total? = none := by cases viewed; decide
  refine ⟨by decide, e, viewed, fun saturates => ?_⟩
  obtain ⟨total, sum, -⟩ := saturates.total
  cases none.symm.trans sum

end Wirelog.TimeTotals
