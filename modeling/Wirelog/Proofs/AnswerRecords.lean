import Wirelog.Proofs.StageLaws

/-! The record of requests that a stage answers. The answer goes the whole way back, but what it
completes is the exchange that the request began on its way out. So it is recorded when the stage
stands behind the one that records, as all do but one: requests without a full URL are answered
before anything is recorded of them, and leave no trace. -/
namespace Wirelog.AnswerRecords
open Recording RecorderLaws StageLaws

/-- What the way back leaves of an answer, in the record and for the client. -/
structure Answered (before : Passage Http.Request) (n : Nat) (i : Interceptors)
    (now : Time.Instant) (handed back : Passage Http.Response) : Prop where
  /-- The client gets what the interceptors leave. -/
  response : back.message = (handed.interceptResponse now i.responses).message
  /-- With a full URL, the exchange has one entry behind those that were there, which is complete
  and holds this response. -/
  recorded : ∀ uri, before.handling.fullUrl? before.message = some uri →
    ∃ entry, Recorded before.recorder n back (.complete, entry) ∧
      entry.response = responseRecord before.recorder.flags back.message
  /-- Without one, the exchange has no entry, and all that are there stay as they are. -/
  unrecorded : before.handling.fullUrl? before.message = none →
    handed.message = Handling.badUrl ∧ back.handling.trace = none ∧
      SameEntries back.recorder before.recorder

/-- An answer completes an exchange that just began. -/
private theorem completed_at_once {before : Recorder} {n : Nat} {q : Passage Http.Response}
    {first : Archive.Entry} (opened : Recorded before n q (.opened, first)) (now : Time.Instant)
    (i : Interceptors) :
    ∃ entry, Recorded before n (Stage.passResponse now (Stage.standard i) q) (.complete, entry) ∧
      entry.response = responseRecord before.flags
        (Stage.passResponse now (Stage.standard i) q).message := by
  have handed := recorded_same opened (record_interceptResponse now i.responses q)
  rw [passResponse_standard, message_of_response]
  exact ⟨_, recorded_response handed now, rfl⟩

/-- An answer that belongs to no exchange is not recorded. -/
private theorem untraced_response {q : Passage Http.Response} (untraced : q.handling.trace = none)
    (now : Time.Instant) (i : Interceptors) :
    SameRecord q (Stage.passResponse now (Stage.standard i) q) := by
  have same := record_interceptResponse now i.responses q
  have still : (q.interceptResponse now i.responses).handling.trace = none :=
    same.trace.trans untraced
  rw [passResponse_standard]
  simp only [Stage.recording, still]
  exact same

/-- Answers of the stages are recorded just when the request has a full URL. -/
theorem answers_by_url {p q : Passage Http.Request} {n : Nat} {answer : Http.Response}
    (now : Time.Instant) (i : Interceptors) (running : p.recorder.runningLog? = some n)
    (arrived : p.handling.trace = none)
    (answered : Stage.passRequest now (Stage.standard i) p = (q, some answer)) :
    Answered p n i now (q.replace answer)
      (Stage.passResponse now (Stage.standard i) (q.replace answer)) := by
  constructor
  case response =>
    rw [passResponse_standard, message_of_response]
  case recorded =>
    intro uri full
    obtain ⟨log, found, -, -⟩ := running_is_log running
    have opened := recorded_request now i running found full
    rw [answered] at opened
    exact completed_at_once (recorded_same opened (record_replace q answer)) now i
  case unrecorded =>
    intro bad
    have refused := passRequest_unaddressed now i bad
    rw [answered] at refused
    cases refused
    have same := untraced_response (q := p.replace Handling.badUrl) arrived now i
    exact ⟨rfl, same.trace.trans arrived, same.entries⟩

/-- A request that comes while an empty log is active. -/
def noted (policy : Policy) (message : Http.Request) : Passage Http.Request :=
  { recorder := ({} : Recorder).newLog .epoch none none, handling := { policy }, message }

/-- Where no URL is allowed, a request is answered and recorded. -/
theorem refusal_is_recorded :
    let p := noted { whitelist := some ([], 403) }
      { uri := { scheme := some .http, authority := "h" } }
    let q := (Stage.passRequest .epoch (Stage.standard {}) p).1
    let back := Stage.passResponse .epoch (Stage.standard {}) (q.replace (.synthetic 403 .empty))
    ∃ entry, Recorded p.recorder 0 back (.complete, entry) ∧
      entry.response = responseRecord p.recorder.flags { status := 403 } := by
  intro p q back
  have answered : Stage.passRequest .epoch (Stage.standard {}) p =
      (q, some (.synthetic 403 .empty)) := rfl
  have outcome := answers_by_url .epoch {} rfl rfl answered
  have response : back.message = { status := 403 } := outcome.response
  obtain ⟨entry, recorded, held⟩ := outcome.recorded { scheme := some .http, authority := "h" } rfl
  exact ⟨entry, recorded, response ▸ held⟩

/-- A request whose host makes no URL is answered as well, and the active log stays empty. -/
theorem nameless_host_is_unrecorded :
    let headers := Http.Headers.ofList [("host", .ofText "")]
    let p := noted {} { uri := { target := { path := "/p" } }, headers }
    let back := Stage.passResponse .epoch (Stage.standard {}) (p.replace Handling.badUrl)
    p.recorder.runningLog? = some 0 ∧
      Stage.passRequest .epoch (Stage.standard {}) p = (p, some Handling.badUrl) ∧
      back.message.status = 400 ∧ entriesOf back.recorder 0 = [] := by
  intro headers p back
  have bad : p.handling.fullUrl? p.message = none := by decide +kernel
  exact ⟨rfl, passRequest_unaddressed .epoch {} bad, rfl, rfl⟩

end Wirelog.AnswerRecords
