import Mathlib.Data.List.Forall2
import Wirelog.Proofs.ExchangeCorrelation

/-! Headers that are not kept. Of a header block that is not kept a record still shows its size, and
through other fields the first media type, the first encoding and, for a redirect, the first
location. Two blocks that agree on these cannot be told apart by what is recorded. The flags of an
exchange are those of its beginning, so this lasts for as long as the exchange does, whatever
happens to the flags of the recorder and whatever headers are added on the way. -/
namespace Wirelog.HiddenHeaders
open Recording Recording.Overlap RecorderLaws ExchangeHistory ExchangeCorrelation

/-- Two header blocks that agree on what a record shows without its headers. -/
structure AlikeBlocks (g h : Http.Headers) : Prop where
  size : headersSize g = headersSize h
  type : g.get? "content-type" = h.get? "content-type"
  encoding : g.get? "content-encoding" = h.get? "content-encoding"

/-- Two requests that differ in their header blocks alone, and there only in what is hidden. -/
structure AlikeRequests (r s : Http.Request) : Prop where
  method : r.method = s.method
  uri : r.uri = s.uri
  version : r.version = s.version
  body : r.body = s.body
  headers : AlikeBlocks r.headers s.headers

/-- Two responses of this kind. What they redirect to is shown. -/
structure AlikeResponses (r s : Http.Response) : Prop where
  status : r.status = s.status
  version : r.version = s.version
  body : r.body = s.body
  headers : AlikeBlocks r.headers s.headers
  location : r.headers.get? "location" = s.headers.get? "location"

/-- Two events that are the same but for what is hidden in their messages. -/
inductive AlikeEvents : Event → Event → Prop where
  | dispatched (alike : AlikeRequests r s) : AlikeEvents (.dispatched r t) (.dispatched s t)
  | completed (alike : AlikeResponses r s) : AlikeEvents (.completed r) (.completed s)
  | same (event : Event) : AlikeEvents event event

/-- Two calls on an exchange of this kind. -/
inductive AlikeTouches : Touch → Touch → Prop where
  | event (alike : AlikeEvents d e) : AlikeTouches (.event d) (.event e)
  | drop : AlikeTouches .drop .drop

/-! ## Records of single messages -/

section Records
variable {g h : Http.Headers}

theorem text_alike {name : String} (first : g.get? name = h.get? name) :
    g.text? name = h.text? name := by
  simp only [Http.Headers.text?, first]

theorem mimeType_alike (alike : AlikeBlocks g h) : Body.mimeTypeOf g = Body.mimeTypeOf h := by
  simp only [Body.mimeTypeOf, Http.Headers.contentType?, text_alike alike.type]

/-- What is recorded of a submitted body does not depend on hidden headers. -/
theorem postData_alike (alike : AlikeBlocks g h) (body : Bytes) (keep : Body.Keep) :
    Body.postData g body keep = Body.postData h body keep := by
  simp only [Body.postData, mimeType_alike alike, text_alike alike.encoding]

/-- Nor is what is recorded of the body of a response. -/
theorem content_alike (alike : AlikeBlocks g h) (body : Bytes) (keep : Body.Keep) :
    Body.content g body keep = Body.content h body keep := by
  simp only [Body.content, Body.contentWithin, mimeType_alike alike, text_alike alike.encoding]

variable {flags : Flags}

theorem requestRecord_alike (off : flags.headers = false) {r s : Http.Request}
    (alike : AlikeRequests r s) : requestRecord flags r = requestRecord flags s := by
  simp only [requestRecord, off, alike.method, alike.uri, alike.version, alike.body,
    alike.headers.size, postData_alike alike.headers, Bool.false_eq_true, ↓reduceIte]

theorem responseRecord_alike (off : flags.headers = false) {r s : Http.Response}
    (alike : AlikeResponses r s) : responseRecord flags r = responseRecord flags s := by
  simp only [responseRecord, off, alike.status, alike.version, alike.body, alike.headers.size,
    content_alike alike.headers, Http.Response.redirectTarget, text_alike alike.location,
    Bool.false_eq_true, ↓reduceIte]

end Records

/-! ## Exchanges -/

section Exchanges
variable {flags : Flags}

/-- Whether an event counts is settled by its form. -/
theorem after_alike {d e : Event} (alike : AlikeEvents d e) (phase : Phase) :
    phase.after? d = phase.after? e := by
  cases alike <;> cases phase <;> rfl

theorem apply_alike (off : flags.headers = false) {d e : Event} (alike : AlikeEvents d e)
    (entry : Archive.Entry) : d.apply flags entry = e.apply flags entry := by
  cases alike with
  | dispatched alike => simp only [Event.apply, Event.write, requestRecord_alike off alike]
  | completed alike => simp only [Event.apply, Event.write, responseRecord_alike off alike]
  | same => rfl

theorem touch_alike {t u : Touch} (alike : AlikeTouches t u) : AlikeEvents t.toEvent u.toEvent := by
  cases alike with
  | event alike => exact alike
  | drop => exact .same _

theorem advance_alike (off : flags.headers = false) {d e : Event} (alike : AlikeEvents d e)
    (state : Phase × Archive.Entry) : advance flags state d = advance flags state e := by
  simp only [advance, after_alike alike, apply_alike off alike]

/-- An exchange by itself comes to the same by calls that are alike. -/
theorem advances_alike (off : flags.headers = false) {ts us : List Touch}
    (alike : List.Forall₂ AlikeTouches ts us) (state : Phase × Archive.Entry) :
    (ts.map Touch.toEvent).foldl (advance flags) state =
      (us.map Touch.toEvent).foldl (advance flags) state := by
  induction alike generalizing state with
  | nil => rfl
  | cons first _ ih =>
    simp only [List.map_cons, List.foldl_cons, advance_alike off (touch_alike first)]
    exact ih _

/-- Two exchanges that begin alike and get calls that are alike have the same entry. -/
theorem entries_alike {g h : History} (off : h.flags.headers = false) (page : g.page = h.page)
    (flags : g.flags = h.flags) (started : g.started = h.started)
    (request : AlikeRequests g.request h.request) (connection : g.connection = h.connection)
    (touches : List.Forall₂ AlikeTouches g.touches h.touches) : g.entry = h.entry := by
  have first : g.first = h.first := by
    simp only [History.first, fresh, page, flags, started, connection,
      requestRecord_alike off request]
  simp only [History.entry, History.state, first, flags, advances_alike off touches]

end Exchanges

/-- An active log is active in both of two ledgers with the same surroundings, or in none. -/
private theorem runs_alike {l₁ l₂ : Ledger} (alike : surroundings l₁ = surroundings l₂) :
    l₁.recorder.runningLog?.isSome = l₂.recorder.runningLog?.isSome := by
  have page := congrArg (Option.isSome ∘ Prod.fst) alike
  simpa [surroundings, running_isSome] using page

/-- Without the flag for headers, messages that differ in nothing but hidden headers have the same
record, whatever the flags for bodies. An exchange that begins under such flags has the same entry
at every moment, whichever of them its requests and responses have, also those added before it is
sent on, and whatever else happens: the flag for headers may well be set while it is open. -/
theorem hidden_headers_leave_no_trace {flags : Flags} (off : flags.headers = false) :
    (∀ r s, AlikeRequests r s → requestRecord flags r = requestRecord flags s) ∧
    (∀ r s, AlikeResponses r s → responseRecord flags r = responseRecord flags s) ∧
    ∀ l₁ l₂ : Ledger, Reached l₁ → Reached l₂ → surroundings l₁ = surroundings l₂ →
      l₁.recorder.flags = flags →
      ∀ now r s connection calls₁ calls₂, AlikeRequests r s →
        List.Forall₂ AlikeTouches (callsOn l₁.traces.length calls₁)
          (callsOn l₂.traces.length calls₂) →
        (l₁.run (.begin now r connection :: calls₁)).entryOf l₁.traces.length =
          (l₂.run (.begin now s connection :: calls₂)).entryOf l₂.traces.length := by
  refine ⟨fun r s => requestRecord_alike off, fun r s => responseRecord_alike off, ?_⟩
  intro l₁ l₂ reached₁ reached₂ alike held now r s connection calls₁ calls₂ requests touches
  have flags₂ : l₁.recorder.flags = l₂.recorder.flags := congrArg Prod.snd alike
  have entries := entries_alike
    (g := { opening l₁ now r connection with touches := callsOn l₁.traces.length calls₁ })
    (h := { opening l₂ now s connection with touches := callsOn l₂.traces.length calls₂ })
    (by simpa only [opening, ← flags₂, held] using off) (by simp only [opening_page, alike])
    flags₂ rfl requests rfl touches
  rw [entry_since_begin reached₁, entry_since_begin reached₂, entries]
  have active := runs_alike alike
  cases running₁ : l₁.recorder.runningLog? <;> cases running₂ : l₂.recorder.runningLog? <;>
    simp [running₁, running₂] at active ⊢

/-- Two visitors with a cookie each, to whose requests credentials are added before they are sent
on. Recording of headers is switched on in between. -/
theorem cookies_leave_no_trace :
    let flags : Flags := { content := true }
    let asked (secret : String) : Http.Request :=
      { uri := {}, headers := .ofList [("cookie", Bytes.ofText secret)] }
    let sent (secret : String) : Http.Request :=
      { uri := {}
        headers := .ofList
          [("cookie", Bytes.ofText secret), ("authorization", Bytes.ofText secret)] }
    let answered (secret : String) : Http.Response :=
      { headers := .ofList [("set-cookie", Bytes.ofText secret)] }
    let l := (Ledger.new flags).run [.newLog .epoch (some "home") none]
    let calls (secret : String) : List Call :=
      [.keep .headers true, .touch 0 (.event (.dispatched (sent secret) {})),
        .touch 0 (.event (.responseStarted 0)), .touch 0 (.event (.completed (answered secret)))]
    let entry (secret : String) :=
      (l.run (.begin .epoch (asked secret) none :: calls secret)).entryOf 0
    flags.headers = false ∧ l.recorder.flags = flags ∧ Reached l ∧
      AlikeRequests (asked "a=1") (asked "b=2") ∧ AlikeRequests (sent "a=1") (sent "b=2") ∧
      AlikeResponses (answered "a=1") (answered "b=2") ∧
      (answered "a=1").headers ≠ (answered "b=2").headers ∧
      requestRecord flags (asked "a=1") = requestRecord flags (asked "b=2") ∧
      responseRecord flags (answered "a=1") = responseRecord flags (answered "b=2") ∧
      entry "a=1" = entry "b=2" := by
  intro flags asked sent answered l calls entry
  have asked' : AlikeRequests (asked "a=1") (asked "b=2") :=
    ⟨rfl, rfl, rfl, rfl, by decide +kernel, by decide +kernel, by decide +kernel⟩
  have sent' : AlikeRequests (sent "a=1") (sent "b=2") :=
    ⟨rfl, rfl, rfl, rfl, by decide +kernel, by decide +kernel, by decide +kernel⟩
  have answered' : AlikeResponses (answered "a=1") (answered "b=2") :=
    ⟨rfl, rfl, rfl, ⟨by decide +kernel, by decide +kernel, by decide +kernel⟩, by decide +kernel⟩
  have reached : Reached l := ⟨_, _, rfl⟩
  have touches : List.Forall₂ AlikeTouches (callsOn 0 (calls "a=1")) (callsOn 0 (calls "b=2")) :=
    .cons (.event (.dispatched sent')) (.cons (.event (.same _))
      (.cons (.event (.completed answered')) .nil))
  have off : flags.headers = false := rfl
  obtain ⟨requests, responses, exchanges⟩ := hidden_headers_leave_no_trace off
  exact ⟨off, rfl, reached, asked', sent', answered', by decide +kernel, requests _ _ asked',
    responses _ _ answered',
    exchanges l l reached reached rfl rfl .epoch _ _ none _ _ asked' touches⟩

end Wirelog.HiddenHeaders
