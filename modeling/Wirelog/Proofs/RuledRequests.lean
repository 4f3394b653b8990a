import Wirelog.Proofs.StageLaws

/-! What the stages make of a request apart from its headers and its body. Once a request has its
full URL, nothing but this URL counts for the rules, for the answer of a refused request and for the
record. The interceptors come last: they may change the request, but neither its handling nor what
is recorded of it. -/
namespace Wirelog.RuledRequests
open Http Recording RecorderLaws StageLaws

/-! ## The rules -/

theorem uri_redirect (r : Request) (uri : Uri) : (Handling.redirect r uri).uri = uri := by
  rw [Handling.redirect]
  split <;> rfl

/-- The URL that the rules of a policy make of a URL. -/
def ruledUri (p : Policy) (u : Uri) : Uri :=
  ((p.substitute? u.text).bind Uri.parse?).getD u

theorem uri_substituted (h : Handling) (r : Request) :
    (h.substituted r).uri = ruledUri h.policy r.uri := by
  rw [Handling.substituted, ruledUri]
  cases (h.policy.substitute? r.uri.text).bind Uri.parse? with
  | some uri => exact uri_redirect r uri
  | none => rfl

/-- What the rules make of a request: its handling and its URL behind them, and the answer to a
refused one. -/
structure Ruling where
  handling : Handling
  uri : Uri
  answer : Option Response

def ruling (h : Handling) (u : Uri) : Ruling :=
  match h.policy.block? u.text with
  | some b =>
    { handling := { h with block := some b }, uri := u, answer := some (Handling.refusal b) }
  | none =>
    let uri := ruledUri h.policy u
    { handling := { h with connectHost := (uri.host?.bind h.policy.remap?).or h.connectHost }
      uri
      answer := none }

/-- The rules go by the URL of a request alone. -/
theorem enforce_by_url (h : Handling) (r : Request) :
    ruling h r.uri =
      { handling := (h.enforce r).1, uri := (h.enforce r).2.1.uri, answer := (h.enforce r).2.2 } := by
  rw [ruling, Handling.enforce]
  cases h.policy.block? r.uri.text with
  | some b => rfl
  | none =>
    have target : h.standIn? (h.substituted r) =
        (ruledUri h.policy r.uri).host?.bind h.policy.remap? := by
      rw [Handling.standIn?, uri_substituted]
    dsimp only
    rw [target, ← uri_substituted]
    cases (h.substituted r).uri.host?.bind h.policy.remap? <;> rfl

theorem block_ruling (h : Handling) (u : Uri) :
    (ruling h u).handling.block = (h.policy.block? u.text).or h.block := by
  rw [ruling]
  cases h.policy.block? u.text <;> rfl

theorem answer_ruling (h : Handling) (u : Uri) :
    (ruling h u).answer = (h.policy.block? u.text).map Handling.refusal := by
  rw [ruling]
  cases h.policy.block? u.text <;> rfl

theorem connectHost_ruling {h : Handling} {u : Uri} (allowed : h.policy.block? u.text = none) :
    (ruling h u).handling.connectHost =
      ((ruledUri h.policy u).host?.bind h.policy.remap?).or h.connectHost := by
  rw [ruling, allowed]

/-! ## The record -/

/-- The exchange as a recorder opens it. -/
def opening (r : Recorder) : Trace :=
  { place := r.runningLog?.bind fun n => (r.log? n).map fun log => ⟨n, log.entries.length⟩
    flags := r.flags }

theorem trace_begin (r : Recorder) (now : Time.Instant) (request : Request)
    (connection : Option String) : (r.begin now request connection).2 = opening r := by
  rw [opening]
  cases running : r.runningLog? with
  | none => rw [begin_stopped running, Option.bind_none]
  | some n =>
    obtain ⟨log, found, -, -⟩ := running_is_log running
    rw [begin_running running found, Option.bind_some, found, Option.map_some]

/-- The URL that the exchange of a passage is recorded under. -/
def recordedUrl? {α : Type} (p : Passage α) : Option String :=
  (p.handling.trace.bind p.recorder.snapshot).map fun entry => entry.request.url

theorem recordedUrl_same {α β : Type} {p : Passage α} {q : Passage β} (same : SameRecord p q) :
    recordedUrl? q = recordedUrl? p := by
  have entries (place : Place) : q.recorder.entry? place = p.recorder.entry? place := by
    rw [entry_at, entry_at, same.entries]
  have snapshots : q.recorder.snapshot = p.recorder.snapshot := by
    funext t
    rw [Recorder.snapshot, Recorder.snapshot, funext entries]
  rw [recordedUrl?, recordedUrl?, same.trace, snapshots]

/-- An exchange is recorded under the URL in its entry. -/
theorem recordedUrl_entry {α : Type} {before : Recorder} {n : Nat} {p : Passage α}
    {state : Phase × Archive.Entry} (recorded : Recorded before n p state) :
    recordedUrl? p = some state.2.request.url := by
  rw [recordedUrl?, recorded.trace, Option.bind_some, Recorder.snapshot, Option.bind_some, entry_at,
    recorded.own, List.getElem?_concat_length, Option.map_some]

/-- With an active log, a request is recorded under the URL that it has by then. -/
theorem recordedUrl_recording (now : Time.Instant) (p : Passage Request) :
    recordedUrl? (Stage.recording.onRequest now p).1 =
      p.recorder.runningLog?.map fun _ => p.message.uri.text := by
  cases running : p.recorder.runningLog? with
  | none =>
    simp only [recordedUrl?, Stage.recording, begin_stopped running, Option.bind_some,
      Recorder.snapshot, Option.bind_none, Option.map_none]
  | some n =>
    obtain ⟨log, found, -, -⟩ := running_is_log running
    exact recordedUrl_entry (recorded_begin running found now)

/-! ## The line of stages -/

/-- The stages before the interceptors. -/
def early : List Stage :=
  [.address, .recording, .enforcement, .headers, .credentials]

theorem passRequest_append (now : Time.Instant) (first second : List Stage) (p : Passage Request) :
    Stage.passRequest now (first ++ second) p =
      match Stage.passRequest now first p with
      | (p, some answer) => (p, some answer)
      | (p, none) => Stage.passRequest now second p := by
  induction first generalizing p with
  | nil => rfl
  | cons stage rest ih =>
    rw [List.cons_append, Stage.passRequest, Stage.passRequest]
    split
    · rfl
    · exact ih _

theorem uri_withHeaders (h : Handling) (r : Request) : (h.withHeaders r).uri = r.uri := rfl

theorem uri_withCredentials (h : Handling) (r : Request) : (h.withCredentials r).uri = r.uri := by
  rw [Handling.withCredentials]
  split <;> rfl

/-- The handling with the exchange that is opened for the request. -/
def begun (p : Passage Request) : Handling :=
  { p.handling with trace := some (opening p.recorder) }

/-- A request with this URL comes out of stages as the rules say. -/
structure Ruled (p : Passage Request) (u : Uri) (way : Passage Request × Option Response) :
    Prop where
  handling : way.1.handling = (ruling (begun p) u).handling
  recorded : recordedUrl? way.1 = p.recorder.runningLog?.map fun _ => u.text
  refused : ∀ answer, (ruling (begun p) u).answer = some answer → way.2 = some answer

variable {p : Passage Request} {u : Uri}

/-- The stages between the record and the interceptors. -/
def behindRecord : List Stage :=
  [.enforcement, .headers, .credentials]

private theorem discreet_behindRecord : ∀ s ∈ behindRecord, Discreet s := by
  simp only [behindRecord, List.forall_mem_cons]
  exact ⟨discreet_enforcement, discreet_headers, discreet_credentials, List.forall_mem_nil _⟩

/-- A request with a full URL comes to these stages once it is recorded. -/
theorem passRequest_early (now : Time.Instant) (full : p.handling.fullUrl? p.message = some u) :
    Stage.passRequest now early p =
      Stage.passRequest now behindRecord
        (Stage.recording.onRequest now { p with message := { p.message with uri := u } }).1 := by
  rw [early, Stage.passRequest, address_full now full]
  rfl

/-- The trace of an exchange depends on the recorder alone, whatever the request is. -/
theorem handling_recording (now : Time.Instant) (p : Passage Request) :
    (Stage.recording.onRequest now p).1.handling = begun p := by
  simp only [Stage.recording, trace_begin, begun]

/-- The rules decide, and the stages behind them add to the headers only. -/
private theorem ruled_behindRecord (now : Time.Instant) (p : Passage Request) :
    let way := Stage.passRequest now behindRecord p
    ruling p.handling p.message.uri =
      { handling := way.1.handling, uri := way.1.message.uri, answer := way.2 } := by
  rw [enforce_by_url]
  simp only [behindRecord, Stage.passRequest, Stage.enforcement, Stage.headers, Stage.credentials]
  rcases p.handling.enforce p.message with ⟨handling, message, _ | answer⟩
  · simp only [uri_withCredentials, uri_withHeaders]
  · rfl

/-- Before the interceptors, the rules alone decide about the URL and the answer, too. -/
theorem early_ruled (now : Time.Instant) (full : p.handling.fullUrl? p.message = some u) :
    let way := Stage.passRequest now early p
    Ruled p u way ∧ way.1.message.uri = (ruling (begun p) u).uri ∧
      way.2 = (ruling (begun p) u).answer := by
  let q := (Stage.recording.onRequest now { p with message := { p.message with uri := u } }).1
  have path : Stage.passRequest now early p = Stage.passRequest now behindRecord q :=
    passRequest_early now full
  have handling : q.handling = begun p := handling_recording now _
  have ruled := ruled_behindRecord now q
  rw [handling, show q.message.uri = u from rfl] at ruled
  have recorded : recordedUrl? q = p.recorder.runningLog?.map fun _ => u.text :=
    recordedUrl_recording now _
  intro way
  have kept := recordedUrl_same (record_passRequest discreet_behindRecord now q)
  simp only [way, path, ruled, and_true]
  constructor
  case handling => rw [ruled]
  case recorded => exact kept.trans recorded
  case refused => rw [ruled]; exact fun answer refused => refused

theorem passRequest_singleton (now : Time.Instant) (s : Stage) (p : Passage Request) :
    Stage.passRequest now [s] p = s.onRequest now p := by
  rw [Stage.passRequest]
  rcases s.onRequest now p with ⟨q, _ | answer⟩ <;> rfl

/-- The whole line is the stages before the interceptors, and then these. -/
theorem passRequest_interceptors (now : Time.Instant) (i : Interceptors) (p : Passage Request) :
    Stage.passRequest now (Stage.standard i) p =
      match Stage.passRequest now early p with
      | (p, some answer) => (p, some answer)
      | (p, none) => p.interceptRequest now i.requests := by
  have path : Stage.passRequest now (Stage.standard i) p = _ :=
    passRequest_append now early [.interceptors i] p
  rw [path]
  simp only [passRequest_singleton]
  rfl

/-- A request that no stage answers comes to the interceptors as the stages before them left it. -/
theorem standard_unanswered (now : Time.Instant) (i : Interceptors)
    (unanswered : (Stage.passRequest now (Stage.standard i) p).2 = none) :
    (Stage.passRequest now early p).2 = none ∧
      (Stage.passRequest now (Stage.standard i) p).1 =
        ((Stage.passRequest now early p).1.interceptRequest now i.requests).1 := by
  rw [passRequest_interceptors] at unanswered ⊢
  generalize Stage.passRequest now early p = way at unanswered ⊢
  obtain ⟨q, _ | answer⟩ := way
  · exact ⟨rfl, rfl⟩
  · cases unanswered

theorem handling_interceptRequest (now : Time.Instant) (fs : List RequestInterceptor)
    (p : Passage Request) : (p.interceptRequest now fs).1.handling = p.handling := by
  induction fs generalizing p with
  | nil => rfl
  | cons f rest ih =>
    rw [Passage.interceptRequest]
    split
    · rfl
    · exact ih _

/-- The interceptors leave it at that. -/
theorem standard_ruled (now : Time.Instant) (i : Interceptors)
    (full : p.handling.fullUrl? p.message = some u) :
    Ruled p u (Stage.passRequest now (Stage.standard i) p) := by
  obtain ⟨ruled, -, answered⟩ := early_ruled now full
  rw [passRequest_interceptors]
  generalize Stage.passRequest now early p = way at ruled answered
  obtain ⟨q, _ | answer⟩ := way
  · have kept := record_interceptRequest now i.requests q
    constructor
    case handling => exact (handling_interceptRequest now i.requests q).trans ruled.handling
    case recorded => exact (recordedUrl_same kept).trans ruled.recorded
    case refused =>
      intro answer refused
      cases answered.trans refused
  · exact ruled

end Wirelog.RuledRequests
