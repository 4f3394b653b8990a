import Wirelog.Handling.Standard
import Wirelog.Proofs.RecorderLaws

/-! The stages as the record sees them. All stages but one leave the exchange and every entry alone:
they change messages, the handling, and pages and comments of logs. The one that records comes early
on the way out and last on the way back, so between its two ends an exchange has one entry at the
end of its log, which moves by events alone. -/
namespace Wirelog.StageLaws
open Recording RecorderLaws

variable {α β γ : Type}

/-- A passage in which the exchange and all entries are those of another one. -/
structure SameRecord (p : Passage α) (q : Passage β) : Prop where
  trace : q.handling.trace = p.handling.trace
  entries : SameEntries q.recorder p.recorder

theorem record_refl (p : Passage α) : SameRecord p p :=
  ⟨rfl, fun _ => rfl⟩

theorem record_trans {p : Passage α} {q : Passage β} {r : Passage γ} (first : SameRecord p q)
    (second : SameRecord q r) : SameRecord p r :=
  ⟨second.trace.trans first.trace, fun n => (second.entries n).trans (first.entries n)⟩

theorem record_replace (p : Passage α) (message : β) : SameRecord p (p.replace message) :=
  ⟨rfl, fun _ => rfl⟩

theorem record_accept (now : Time.Instant) (p : Passage α) (i : Intercepted α) :
    SameRecord p (p.accept now i) := by
  refine ⟨rfl, ?_⟩
  simp only [Passage.accept]
  split
  · exact same_onLog _ _ _ fun log _ => edits_entries log now i.edits
  · exact fun _ => rfl

theorem record_interceptRequest (now : Time.Instant) (fs : List RequestInterceptor)
    (p : Passage Http.Request) : SameRecord p (p.interceptRequest now fs).1 := by
  induction fs generalizing p with
  | nil => exact record_refl p
  | cons f rest ih =>
    rw [Passage.interceptRequest]
    split
    · exact record_accept now p _
    · exact record_trans (record_accept now p _) (ih _)

theorem record_interceptResponse (now : Time.Instant) (fs : List ResponseInterceptor)
    (p : Passage Http.Response) : SameRecord p (p.interceptResponse now fs) := by
  induction fs generalizing p with
  | nil => exact record_refl p
  | cons f rest ih => exact record_trans (record_accept now p _) (ih _)

/-! ## Stages that record nothing -/

/-- A stage that leaves the record of every request alone. -/
def Discreet (s : Stage) : Prop :=
  ∀ now p, SameRecord p (s.onRequest now p).1

theorem discreet_enforcement : Discreet Stage.enforcement := by
  intro now p
  refine ⟨?_, fun _ => rfl⟩
  simp only [Stage.enforcement, Handling.enforce]
  split
  · rfl
  · split <;> rfl

theorem discreet_headers : Discreet Stage.headers :=
  fun _ _ => ⟨rfl, fun _ => rfl⟩

theorem discreet_credentials : Discreet Stage.credentials :=
  fun _ _ => ⟨rfl, fun _ => rfl⟩

theorem discreet_interceptors (i : Interceptors) : Discreet (Stage.interceptors i) :=
  fun now p => record_interceptRequest now i.requests p

theorem record_passRequest {stages : List Stage} (discreet : ∀ s ∈ stages, Discreet s)
    (now : Time.Instant) (p : Passage Http.Request) :
    SameRecord p (Stage.passRequest now stages p).1 := by
  induction stages generalizing p with
  | nil => exact record_refl p
  | cons s rest ih =>
    have here := discreet s List.mem_cons_self now p
    rw [Stage.passRequest]
    split
    · rename_i answered
      rw [answered] at here
      exact here
    · rename_i passed
      rw [passed] at here
      exact record_trans here (ih (fun t member => discreet t (List.mem_cons_of_mem s member)) _)

/-- The stages that a request comes to once it is recorded. -/
def afterRecording (i : Interceptors) : List Stage :=
  [.enforcement, .headers, .credentials, .interceptors i]

theorem discreet_afterRecording (i : Interceptors) : ∀ s ∈ afterRecording i, Discreet s := by
  simp only [afterRecording, List.forall_mem_cons]
  exact ⟨discreet_enforcement, discreet_headers, discreet_credentials, discreet_interceptors i,
    List.forall_mem_nil _⟩

/-! ## The recorded exchange -/

/-- The exchange of a passage has its entry at the end of a log, behind all entries that were there
before it, and no other log differs. -/
structure Recorded (before : Recorder) (n : Nat) (p : Passage α) (state : Phase × Archive.Entry) :
    Prop where
  trace : p.handling.trace =
    some { place := some ⟨n, (entriesOf before n).length⟩, phase := state.1, flags := before.flags }
  own : entriesOf p.recorder n = entriesOf before n ++ [state.2]
  others : ∀ m ≠ n, entriesOf p.recorder m = entriesOf before m

theorem recorded_same {before : Recorder} {n : Nat} {p : Passage α} {q : Passage β}
    {state : Phase × Archive.Entry} (recorded : Recorded before n p state) (same : SameRecord p q) :
    Recorded before n q state :=
  ⟨same.trace.trans recorded.trace, (same.entries n).trans recorded.own,
    fun m other => (same.entries m).trans (recorded.others m other)⟩

private theorem modify_last (l : List α) (a : α) (f : α → α) :
    (l ++ [a]).modify l.length f = l ++ [f a] := by
  induction l with
  | nil => rfl
  | cons b rest ih => exact congrArg (b :: ·) ih

theorem recorded_event {before : Recorder} {n : Nat} {p : Passage α}
    {state : Phase × Archive.Entry} (recorded : Recorded before n p state) (event : Event) :
    Recorded before n (p.record event) (advance before.flags state event) := by
  constructor
  · simp only [Passage.record, recorded.trace, record_trace _ _ _ state.2]
  · simp only [Passage.record, recorded.trace, entries_record, recorded.own, ↓reduceIte]
    exact modify_last _ state.2 _
  · intro m other
    simp only [Passage.record, recorded.trace, entries_record, recorded.others m other,
      other.symm, ↓reduceIte]

theorem recorded_events {before : Recorder} {n : Nat} {p : Passage α}
    {state : Phase × Archive.Entry} (recorded : Recorded before n p state) (events : List Event) :
    Recorded before n (events.foldl Passage.record p)
      (events.foldl (advance before.flags) state) := by
  induction events generalizing p state with
  | nil => exact recorded
  | cons event rest ih => exact ih (recorded_event recorded event)

/-- Letting go of a finished exchange changes nothing. -/
theorem close_final {before : Recorder} {n : Nat} {p : Passage α} {state : Phase × Archive.Entry}
    (recorded : Recorded before n p state) (final : state.1.isFinal = true) :
    p.close = p.recorder := by
  simp only [Passage.close, recorded.trace, Recorder.abandon, Recorder.record,
    final_refuses final]

/-! ## The line of stages -/

/-- Recording a request opens its exchange. -/
theorem recorded_begin {p : Passage Http.Request} {n : Nat} {log : OpenLog}
    (running : p.recorder.runningLog? = some n) (found : p.recorder.log? n = some log)
    (now : Time.Instant) :
    Recorded p.recorder n (Stage.recording.onRequest now p).1
      (.opened, fresh p.recorder.flags log.current now p.message (some p.handling.connection)) := by
  have size : (entriesOf p.recorder n).length = log.entries.length := by rw [entries_of_log found]
  constructor
  · simp only [Stage.recording, begin_running running found, size]
  · simp only [Stage.recording, entries_begin running found, ↓reduceIte]
  · intro m other
    simp only [Stage.recording, entries_begin running found, other.symm, ↓reduceIte]

/-- A request with a full URL goes on with this URL. -/
theorem address_full (now : Time.Instant) {p : Passage Http.Request} {uri : Http.Uri}
    (full : p.handling.fullUrl? p.message = some uri) :
    Stage.address.onRequest now p = ({ p with message := { p.message with uri } }, none) := by
  simp only [Stage.address, full]

/-- A request with a full URL passes its way to the end as one that is recorded first. -/
theorem passRequest_standard (now : Time.Instant) (i : Interceptors) {p : Passage Http.Request}
    {uri : Http.Uri} (full : p.handling.fullUrl? p.message = some uri) :
    Stage.passRequest now (Stage.standard i) p =
      Stage.passRequest now (afterRecording i)
        (Stage.recording.onRequest now { p with message := { p.message with uri } }).1 := by
  rw [Stage.standard, Stage.passRequest, address_full now full]
  rfl

/-- A request without one is answered before it is recorded. -/
theorem passRequest_unaddressed (now : Time.Instant) (i : Interceptors)
    {p : Passage Http.Request} (bad : p.handling.fullUrl? p.message = none) :
    Stage.passRequest now (Stage.standard i) p = (p, some Handling.badUrl) := by
  have refused : Stage.address.onRequest now p = (p, some Handling.badUrl) := by
    simp only [Stage.address, bad]
  rw [Stage.standard, Stage.passRequest, refused]

/-- With an active log, a request with a full URL has its exchange open when it leaves the stages,
whether it is answered there or not. -/
theorem recorded_request (now : Time.Instant) (i : Interceptors) {p : Passage Http.Request}
    {n : Nat} {log : OpenLog} {uri : Http.Uri} (running : p.recorder.runningLog? = some n)
    (found : p.recorder.log? n = some log) (full : p.handling.fullUrl? p.message = some uri) :
    Recorded p.recorder n (Stage.passRequest now (Stage.standard i) p).1
      (.opened, fresh p.recorder.flags log.current now { p.message with uri }
        (some p.handling.connection)) := by
  rw [passRequest_standard now i full]
  have opened :=
    recorded_begin (p := { p with message := { p.message with uri } }) running found now
  exact recorded_same opened (record_passRequest (discreet_afterRecording i) now _)

/-- On the way back only the interceptors and the record have a part. -/
theorem passResponse_standard (now : Time.Instant) (i : Interceptors) (q : Passage Http.Response) :
    Stage.passResponse now (Stage.standard i) q =
      Stage.recording.onResponse now (q.interceptResponse now i.responses) := rfl

/-- The record takes the response for an end, if the exchange has none yet. -/
theorem recorded_response {before : Recorder} {n : Nat} {q : Passage Http.Response}
    {state : Phase × Archive.Entry} (recorded : Recorded before n q state) (now : Time.Instant) :
    Recorded before n (Stage.recording.onResponse now q)
      (advance before.flags state (.completed q.message)) := by
  simp only [Stage.recording, recorded.trace]
  split
  · rename_i final
    rw [advance_final final]
    exact recorded
  · exact recorded_event recorded _

theorem message_of_response (now : Time.Instant) (q : Passage Http.Response) :
    (Stage.recording.onResponse now q).message = q.message := by
  simp only [Stage.recording, Passage.record]
  split
  · split
    · rfl
    · split <;> rfl
  · rfl

end Wirelog.StageLaws
