import Wirelog.Gateway.Answering
import Wirelog.Proofs.JourneyLaws
import Wirelog.Proofs.StageLaws

/-! How an exchange that is sent on ends. The events of the journey and the record each follow an
order of their own: the journey stops wherever the network makes it, and the record takes a response
only after it started. They agree at every end, so the exchange is always finished when the client
gets its answer, by the response that the client sees or by the failure that made it. -/
namespace Wirelog.ExchangeOutcome
open Recording RecorderLaws StageLaws JourneyLaws Forward Gateway

/-- The handling of a request at its end: the response that was handed to the interceptors came out
of them as the one of the passage, the client gets it without the headers that concern one
connection only, and letting go of the exchange changes nothing any more. -/
structure Ends (g : Gateway) (s : Surroundings) (c : Client) (inside : Option String)
    (r : Http.Request) (book : Resolution.Book) (handed q : Passage Http.Response) : Prop where
  handled : g.handle s c inside r = (book, .ok q)
  response : q.message = (handed.interceptResponse s.moment g.interceptors.responses).message
  answered : g.exchange s c inside r =
    ({ g with recorder := q.recorder, book }, some (trimmedResponse q.message))

/-- The times that an entry has before its request went out, then, and once the response started. -/
inductive Kept (measured : Dispatch) : Archive.Timings → Prop where
  | unsent : Kept measured {}
  | sent : Kept measured {
      blocked := Recording.measured measured.blocked
      dns := Recording.measured measured.dns
      connect := Recording.measured measured.connect
      ssl := Recording.measured measured.ssl
      send := measured.send.recorded }
  | started (wait : Time.Span) : Kept measured {
      blocked := Recording.measured measured.blocked
      dns := Recording.measured measured.dns
      connect := Recording.measured measured.connect
      ssl := Recording.measured measured.ssl
      send := measured.send.recorded
      wait := wait.recorded }

/-- The entry of an exchange that failed, beside the entry as it stood before: no status and no
body, the failure in words in two places, and the times as far as they were known. -/
structure FailureRecord (f : Failure) (measured : Dispatch) (earlier entry : Archive.Entry) :
    Prop where
  response : entry.response = { error := some f.message }
  comment : entry.comment = some f.message
  timings : entry.timings = earlier.timings
  kept : Kept measured entry.timings

/-- What an exchange comes to, by how sending it on ends. A response completes it in the form in
which the interceptors leave it. A failure is recorded as such, on top of what was recorded before
it, and becomes a response of its own. Without an end there is no answer. -/
def Outcome (g : Gateway) (s : Surroundings) (c : Client) (inside : Option String)
    (r : Http.Request) (n : Nat) : Except Stop Http.Response × Journey → Prop
  | (.ok response, j) =>
    ∃ q entry, Ends g s c inside r j.book (j.passage.replace response) q ∧
      Recorded g.recorder n q (.complete, entry) ∧
      entry.response = responseRecord g.recorder.flags q.message
  | (.error (.failed f), j) =>
    let handed := (j.passage.record (.failed f.message)).replace (failed f)
    ∃ q phase earlier entry, Ends g s c inside r j.book handed q ∧
      Recorded g.recorder n j.passage (phase, earlier) ∧
      Recorded g.recorder n q (.failed, entry) ∧
      FailureRecord f j.timings earlier entry ∧
      handed.message.status = if f matches .timeout _ then 504 else 502
  | (.error .never, _) => (g.exchange s c inside r).2 = none

/-! ## The record when a journey stops -/

private theorem progress_underway {flags : Flags} {first : Archive.Entry} {request : Http.Request}
    {timings : Dispatch} {events : List Event} (progress : Progress request timings events) :
    (events.foldl (advance flags) (.opened, first)).1.isFinal = false := by
  cases progress <;> rfl

private theorem progress_kept (flags : Flags) {first : Archive.Entry} {request : Http.Request}
    {timings : Dispatch} {events : List Event} (progress : Progress request timings events)
    (unmeasured : first.timings = {}) (unanswered : first.response = {}) :
    let entry := (events.foldl (advance flags) (.opened, first)).2
    Kept timings entry.timings ∧ entry.response = {} := by
  cases progress with
  | unsent => exact ⟨unmeasured ▸ .unsent, unanswered⟩
  | sent =>
    refine ⟨?_, unanswered⟩
    simp only [List.foldl, advance, Phase.after?, Event.apply, Event.write, unmeasured]
    exact .sent
  | started wait =>
    refine ⟨?_, unanswered⟩
    simp only [List.foldl, advance, Phase.after?, Event.apply, Event.write, unmeasured]
    exact .started wait

/-! ## The way back -/

/-- A request that no stage answers is sent on. -/
private theorem handle_onward {g : Gateway} {s : Surroundings} {c : Client}
    {inside : Option String} {r : Http.Request} {p : Passage Http.Request}
    (onward : Stage.passRequest s.moment (Stage.standard g.interceptors) (g.arrival c inside r) =
      (p, none)) :
    g.handle s c inside r =
      ((g.sendOn s p).1,
        (g.sendOn s p).2.map (Stage.passResponse s.moment (Stage.standard g.interceptors))) := by
  simp only [handle, onward]

/-- A response that comes back ends its exchange, if this is open enough to take it. -/
private theorem ends_finished {g : Gateway} {s : Surroundings} {c : Client}
    {inside : Option String} {r : Http.Request} {n : Nat} {book : Resolution.Book}
    {handed : Passage Http.Response} {state : Phase × Archive.Entry}
    (handled : g.handle s c inside r =
      (book, .ok (Stage.passResponse s.moment (Stage.standard g.interceptors) handed)))
    (recorded : Recorded g.recorder n handed state)
    (final : ∀ response, (advance g.recorder.flags state (.completed response)).1.isFinal = true) :
    ∃ q, Ends g s c inside r book handed q ∧
      Recorded g.recorder n q (advance g.recorder.flags state (.completed q.message)) := by
  rw [passResponse_standard] at handled
  generalize intercepted : handed.interceptResponse s.moment g.interceptors.responses = back
    at handled
  have kept : Recorded g.recorder n back state :=
    intercepted ▸ recorded_same recorded (record_interceptResponse ..)
  have ended := recorded_response kept s.moment
  have message := message_of_response s.moment back
  refine ⟨_, ⟨handled, message.trans (intercepted ▸ rfl), ?_⟩, message.symm ▸ ended⟩
  simp only [exchange, handled, close_final ended (final _)]

/-- Every way of sending a request on has the same end for the client and for the record. -/
theorem outcomes_agree {g : Gateway} {s : Surroundings} {c : Client} {inside : Option String}
    {r : Http.Request} {n : Nat} (running : g.recorder.runningLog? = some n)
    (unanswered : (Stage.passRequest s.moment (Stage.standard g.interceptors)
      (g.arrival c inside r)).2 = none) :
    let p := (Stage.passRequest s.moment (Stage.standard g.interceptors) (g.arrival c inside r)).1
    Outcome g s c inside r n (dispatch s.network g.options g.limits s.now g.book p) := by
  cases onward : Stage.passRequest s.moment (Stage.standard g.interceptors)
    (g.arrival c inside r) with
  | mk p answer =>
  obtain rfl : answer = none := by simpa [onward] using unanswered
  change Outcome g s c inside r n (dispatch s.network g.options g.limits s.now g.book p)
  obtain ⟨log, found, -, -⟩ := running_is_log running
  obtain ⟨first, opened, unmeasured, unanswered⟩ :
      ∃ first, Recorded g.recorder n p (.opened, first) ∧ first.timings = {} ∧
        first.response = {} := by
    cases full : (g.arrival c inside r).handling.fullUrl? (g.arrival c inside r).message with
    | none => cases (passRequest_unaddressed s.moment g.interceptors full).symm.trans onward
    | some uri =>
      have recorded := recorded_request s.moment g.interceptors running found full
      rw [onward] at recorded
      exact ⟨_, recorded, rfl, rfl⟩
  have handled := handle_onward onward
  have journey := dispatch_records s.network g.options g.limits s.now g.book p
  generalize sent : dispatch s.network g.options g.limits s.now g.book p = result at journey ⊢
  match result with
  | (.ok response, j) =>
    obtain ⟨wait, receive, passed⟩ := journey
    have recorded := recorded_events opened (completeRecord p.message j.timings wait receive)
    rw [← passed] at recorded
    rw [sendOn, sent] at handled
    obtain ⟨q, ends, ended⟩ :=
      ends_finished handled (recorded_same recorded (record_replace _ response)) fun _ => rfl
    exact ⟨q, _, ends, ended, rfl⟩
  | (.error (.failed f), j) =>
    obtain ⟨events, progress, passed⟩ := journey
    have recorded := recorded_events opened events
    rw [← passed] at recorded
    have failed' := recorded_event recorded (.failed f.message)
    rw [advance_failed (progress_underway progress)] at failed'
    rw [sendOn, sent] at handled
    obtain ⟨q, ends, ended⟩ :=
      ends_finished handled (recorded_same failed' (record_replace _ (failed f))) fun _ => rfl
    obtain ⟨kept, unanswered⟩ := progress_kept g.recorder.flags progress unmeasured unanswered
    refine ⟨q, _, _, _, ends, recorded, ended, ⟨?_, rfl, rfl, kept⟩, ?_⟩
    · simp only [Event.apply, Event.write, unanswered]
    · cases f <;> rfl
  | (.error .never, j) =>
    rw [sendOn, sent] at handled
    simp only [Outcome, exchange, handled, Except.map]

/-- A proxy with an empty log. -/
def attentive : Gateway :=
  { recorder := ({} : Recorder).newLog .epoch none none }

/-- A machine without a network. -/
def offline : Surroundings :=
  { network := .unplugged, moment := .epoch, now := 0 }

/-- Someone with a request for a host. -/
def caller : Client :=
  { id := "C", remote := { ip := .v4 127 0 0 1, port := 40000 } }

@[inherit_doc caller]
def errand : Http.Request :=
  { uri := { scheme := some .http, authority := "h" } }

/-- Where no name has an address, the exchange fails for this reason. -/
theorem outcome_offline :
    let reason := "dns resolution failed for h: " ++
      "failed to lookup address information: Name or service not known"
    attentive.recorder.runningLog? = some 0 ∧
      (Stage.passRequest offline.moment (Stage.standard attentive.interceptors)
        (attentive.arrival caller none errand)).2 = none ∧
      ∃ book q entry, attentive.handle offline caller none errand = (book, .ok q) ∧
        Recorded attentive.recorder 0 q (.failed, entry) ∧ entry.response.error = some reason ∧
        entry.comment = some reason := by
  intro reason
  have running : attentive.recorder.runningLog? = some 0 := rfl
  have unanswered : (Stage.passRequest offline.moment (Stage.standard attentive.interceptors)
    (attentive.arrival caller none errand)).2 = none := rfl
  have outcome := outcomes_agree running unanswered
  dsimp only at outcome
  generalize sent : dispatch _ _ _ _ _ _ = result at outcome
  have stopped : result.1 = .error (.failed (.unresolved "h"
      "failed to lookup address information: Name or service not known")) := by
    rw [← sent]
    rfl
  obtain ⟨_, j⟩ := result
  obtain rfl := stopped
  obtain ⟨q, phase, earlier, entry, ends, -, recorded, failure, -⟩ := outcome
  exact ⟨running, unanswered, j.book, q, entry, ends.handled, recorded,
    congrArg _ failure.response, failure.comment⟩

end Wirelog.ExchangeOutcome
