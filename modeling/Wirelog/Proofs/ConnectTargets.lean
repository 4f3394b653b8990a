import Wirelog.Gateway.Answering
import Wirelog.Handling.Script
import Wirelog.Proofs.JourneyLaws
import Wirelog.Proofs.PolicyLaws
import Wirelog.Proofs.RuledRequests

/-! The host that a request is connected to. The rules make the URL of a request and look up what
stands in for its host. The interceptors come behind them: they may put any URL in its place, and
what was looked up stays. So a connection belongs to the URL that is sent as long as interceptors
leave the host alone, and beyond that just if both hosts lead to the same place. -/
namespace Wirelog.ConnectTargets
open Http Recording Forward RecorderLaws StageLaws JourneyLaws RuledRequests

/-! ## Hosts and their stand-ins -/

/-- The host that a policy has a host connected to: the one that stands in for it, or itself. -/
def targetOf (policy : Policy) (host : String) : String :=
  (policy.remap? host).getD host

/-- What stands in for the host of a URL. -/
def standIn? (policy : Policy) (u : Uri) : Option String :=
  u.host?.bind policy.remap?

/-- Two URLs name the same host, letter case aside, or none. -/
def SameHost (u v : Uri) : Prop :=
  u.host?.map Text.asciiLower = v.host?.map Text.asciiLower

variable {policy : Policy} {u v : Uri}

/-- Stand-ins do not depend on letter case. -/
theorem standIn_same (same : SameHost u v) : standIn? policy u = standIn? policy v := by
  have folded (w : Uri) : standIn? policy w =
      (w.host?.map Text.asciiLower).bind (Policy.lookup · policy.remaps) := by
    rw [standIn?]
    cases w.host? <;> rfl
  rw [folded, folded, same]

/-! ## Interceptors -/

/-- An interceptor that leaves the host of every request as it is. -/
def KeepsHost (f : RequestInterceptor) : Prop :=
  ∀ r log, SameHost (f r log).1.message.uri r.uri

/-- Interceptors that do so one by one do so together. -/
theorem host_interceptRequest (now : Time.Instant) {fs : List RequestInterceptor}
    (keep : ∀ f ∈ fs, KeepsHost f) (p : Passage Request) :
    SameHost (p.interceptRequest now fs).1.message.uri p.message.uri := by
  induction fs generalizing p with
  | nil => rfl
  | cons f rest ih =>
    have first := keep f List.mem_cons_self p.message (p.handling.log? p.recorder)
    rw [Passage.interceptRequest]
    split
    · rename_i answered
      rw [answered] at first
      exact first
    · rename_i passed
      rw [passed] at first
      exact (ih (fun g member => keep g (List.mem_cons_of_mem f member)) _).trans first

/-! ## Requests behind the stages -/

/-- A request of a client as it leaves the stages, and the answer if one of them gave any. -/
def departure (g : Gateway) (now : Time.Instant) (c : Client) (inside : Option String)
    (r : Request) : Passage Request × Option Response :=
  Stage.passRequest now (Stage.standard g.interceptors) (g.arrival c inside r)

/-- What stands in for the host of a URL, unless it leads to this very host. -/
def elsewhere? (policy : Policy) (host : String) (u : Uri) : Option String :=
  (standIn? policy u).filter (· != host)

/-- How a request is sent on that the rules left with the URL `u`. -/
structure SentOn (g : Gateway) (u : Uri) (q : Passage Request) : Prop where
  /-- Without a host it is not. -/
  lost : q.message.uri.host? = none →
    Route.of q.handling q.message.uri =
      .error (.protocol ("no host in '" ++ q.message.uri.text ++ "'"))
  /-- It is connected to what stands in for the host that the rules left, or else to the host of the
  URL that it is sent with. -/
  target : ∀ host, q.message.uri.host? = some host → ∃ route,
    Route.of q.handling q.message.uri = .ok route ∧ route.host = host ∧
      route.connectHost = (standIn? g.policy u).getD host
  /-- The connection belongs to the URL that it is sent with just if both URLs lead to the same
  place. -/
  belongs : ∀ route, Route.of q.handling q.message.uri = .ok route →
    (route.connectHost = targetOf g.policy route.host ↔
      elsewhere? g.policy route.host u = elsewhere? g.policy route.host q.message.uri)
  /-- So it does behind interceptors that keep the host. -/
  kept : (∀ f ∈ g.interceptors.requests, KeepsHost f) →
    ∀ route, Route.of q.handling q.message.uri = .ok route →
      route.connectHost = targetOf g.policy route.host
  /-- The URL that it is sent with is the one that is recorded, also if nothing comes back; only a
  request that could not be sent at all stays recorded as it was. -/
  recorded : ∀ net limits now book,
    match dispatch net g.options limits now book q with
    | (.ok _, k) =>
      recordedUrl? k.passage = g.recorder.runningLog?.map fun _ => q.message.uri.text
    | (.error _, k) =>
      k.passage = q ∨
        recordedUrl? k.passage = g.recorder.runningLog?.map fun _ => q.message.uri.text

/-! ## Routes -/

theorem route_ok {h : Handling} {route : Route} (found : Route.of h v = .ok route) :
    v.host? = some route.host ∧ route.connectHost = h.connectHost.getD route.host := by
  unfold Route.of at found
  cases named : v.host? with
  | none =>
    rw [named] at found
    cases found
  | some host =>
    rw [named] at found
    cases found
    exact ⟨rfl, rfl⟩

theorem route_named {host : String} (h : Handling) (named : v.host? = some host) :
    ∃ route, Route.of h v = .ok route := by
  rw [Route.of, named]
  exact ⟨_, rfl⟩

/-- Two hosts that may be missing come to the same behind a fallback just if they are the same
wherever they differ from the fallback. -/
private theorem getD_eq_iff (host : String) (a b : Option String) :
    a.getD host = b.getD host ↔ a.filter (· != host) = b.filter (· != host) := by
  have leads (c : Option String) :
      c.filter (· != host) = if c.getD host = host then none else some (c.getD host) := by
    cases c with
    | none => simp
    | some other => simp [Option.filter_some, bne_iff_ne, ite_not]
  have ends (c : Option String) : (c.filter (· != host)).getD host = c.getD host := by
    rw [leads]
    split
    · rename_i here
      exact here.symm
    · rfl
  constructor
  · intro same
    rw [leads, leads, same]
  · intro same
    rw [← ends a, ← ends b, same]

/-! ## Records -/

/-- An exchange without a place is recorded under none. -/
theorem recordedUrl_unplaced {α : Type} {p : Passage α} (unplaced : p.handling.place? = none) :
    recordedUrl? p = none := by
  rw [Handling.place?] at unplaced
  rw [recordedUrl?]
  cases traced : p.handling.trace with
  | none => rfl
  | some t =>
    rw [traced, Option.bind_some] at unplaced
    rw [Option.bind_some, Recorder.snapshot, unplaced]
    rfl

private theorem place_record (r : Recorder) (t : Trace) (event : Event) :
    (r.record t event).2.place = t.place := by
  rw [Recorder.record]
  cases t.phase.after? event <;> rfl

/-- No event gives an exchange a place. -/
theorem place_events {α : Type} (p : Passage α) (events : List Event) :
    (events.foldl Passage.record p).handling.place? = p.handling.place? := by
  induction events generalizing p with
  | nil => rfl
  | cons event rest ih =>
    refine (ih _).trans ?_
    rw [Passage.record]
    cases traced : p.handling.trace with
    | none => rfl
    | some t => simp only [Handling.place?, traced, Option.bind_some, place_record]

/-- Without an active log, a request has no place in the record. -/
theorem unplaced_request (now : Time.Instant) (i : Interceptors) {p : Passage Request}
    (stopped : p.recorder.runningLog? = none) (full : p.handling.fullUrl? p.message = some u) :
    (Stage.passRequest now (Stage.standard i) p).1.handling.place? = none := by
  rw [passRequest_standard now i full, Handling.place?,
    (record_passRequest (discreet_afterRecording i) now _).trace]
  simp only [Stage.recording, trace_begin, opening, stopped, Option.bind_none, Option.bind_some]

/-- No event changes the request in the entry of an exchange that is past its opening, or leads back
there. -/
theorem request_advance (flags : Flags) {state : Phase × Archive.Entry}
    (sent : state.1 ≠ .opened) (event : Event) :
    (advance flags state event).1 ≠ .opened ∧
      (advance flags state event).2.request = state.2.request := by
  obtain ⟨phase, entry⟩ := state
  cases phase with
  | opened => exact absurd rfl sent
  | dispatched | responding | complete | failed =>
    refine ⟨fun back => ?_, ?_⟩
    · cases event <;> cases back
    · cases event <;> rfl

theorem request_advances (flags : Flags) {state : Phase × Archive.Entry}
    (sent : state.1 ≠ .opened) (events : List Event) :
    (events.foldl (advance flags) state).2.request = state.2.request := by
  induction events generalizing state with
  | nil => rfl
  | cons event rest ih =>
    obtain ⟨still, same⟩ := request_advance flags sent event
    exact (ih still).trans same

/-- Once it is sent, it stays recorded as the request that was sent. -/
theorem request_dispatched (flags : Flags) (entry : Archive.Entry) (request : Request)
    (timings : Dispatch) (later : List Event) :
    ((Event.dispatched request timings :: later).foldl (advance flags)
      (.opened, entry)).2.request = requestRecord flags request := by
  have sent : (advance flags (.opened, entry) (.dispatched request timings)).1 ≠ .opened := nofun
  exact request_advances flags sent later

/-! ## Requests that are sent on -/

section Departure
variable {g : Gateway} {c : Client} {inside : Option String} {r : Request}
  (full : (g.handlingFor c inside).fullUrl? (Gateway.trimmedRequest r) = some u)
include full

/-- A request that was sent on is recorded under the URL that it was sent with, whatever happens to
it later. -/
theorem recordedUrl_sent (now : Time.Instant) (timings : Dispatch) (later : List Event) :
    let q := (departure g now c inside r).1
    recordedUrl? ((.dispatched q.message timings :: later).foldl Passage.record q) =
      g.recorder.runningLog?.map fun _ => q.message.uri.text := by
  let p := g.arrival c inside r
  cases running : g.recorder.runningLog? with
  | none =>
    -- Nothing is recorded of an exchange that has no place, whatever happens to it.
    have nowhere : (departure g now c inside r).1.handling.place? = none :=
      unplaced_request now g.interceptors (p := p) running full
    exact recordedUrl_unplaced ((place_events _ _).trans nowhere)
  | some n =>
    obtain ⟨log, found, -, -⟩ := running_is_log running
    have opened := recorded_request now g.interceptors (p := p) running found full
    refine (recordedUrl_entry (recorded_events opened _)).trans ?_
    rw [request_dispatched]
    rfl

variable {now : Time.Instant} (unanswered : (departure g now c inside r).2 = none)
include unanswered

/-- The rules let a request pass that no stage answers, and it comes to the interceptors with the
URL that they made. -/
theorem ruled_departure :
    g.policy.block? u.text = none ∧
      (Stage.passRequest now early (g.arrival c inside r)).1.message.uri =
        ruledUri g.policy u := by
  let p := g.arrival c inside r
  obtain ⟨passed, -⟩ := standard_unanswered now g.interceptors unanswered
  obtain ⟨-, uri, answer⟩ := early_ruled now (p := p) full
  have allowed : g.policy.block? u.text = none := by
    rw [answer, answer_ruling, Option.map_eq_none_iff] at passed
    exact passed
  refine ⟨allowed, uri.trans ?_⟩
  have governed : (begun p).policy.block? u.text = none := allowed
  rw [ruling, governed]
  rfl

/-- A request that no stage answers goes by the stand-in of the host that the rules left. -/
theorem connectHost_departure :
    (departure g now c inside r).1.handling.connectHost =
      standIn? g.policy (ruledUri g.policy u) := by
  let p := g.arrival c inside r
  have allowed : (begun p).policy.block? u.text = none := (ruled_departure full unanswered).1
  have ruled := (standard_ruled now g.interceptors (p := p) full).handling
  have target := connectHost_ruling allowed
  rw [← ruled] at target
  exact target.trans (Option.or_none ..)

/-- Interceptors that keep hosts send it to the host that the rules left. -/
theorem host_departure (keep : ∀ f ∈ g.interceptors.requests, KeepsHost f) :
    SameHost (departure g now c inside r).1.message.uri (ruledUri g.policy u) := by
  -- The interceptors start from what the rules left, and nobody changes the URL behind them.
  obtain ⟨-, behind⟩ := standard_unanswered now g.interceptors unanswered
  rw [departure, behind, ← (ruled_departure full unanswered).2]
  exact host_interceptRequest now keep _

end Departure

/-- The connection for a request goes by the URL that the rules left, and so it belongs to the URL
that is sent and recorded just if interceptors lead it to no other place. -/
theorem connections_follow_rules (g : Gateway) (now : Time.Instant) (c : Client)
    (inside : Option String) (r : Request) (unanswered : (departure g now c inside r).2 = none) :
    ∃ u, (g.handlingFor c inside).fullUrl? (Gateway.trimmedRequest r) = some u ∧
      SentOn g (ruledUri g.policy u) (departure g now c inside r).1 := by
  cases full : (g.handlingFor c inside).fullUrl? (Gateway.trimmedRequest r) with
  | none =>
    have refused := passRequest_unaddressed now g.interceptors (p := g.arrival c inside r) full
    rw [departure, refused] at unanswered
    cases unanswered
  | some u =>
    have target := connectHost_departure full unanswered
    generalize sent : (departure g now c inside r).1 = q at target
    have belongs {route : Route} (found : Route.of q.handling q.message.uri = .ok route) :
        route.connectHost = targetOf g.policy route.host ↔
          elsewhere? g.policy route.host (ruledUri g.policy u) =
            elsewhere? g.policy route.host q.message.uri := by
      obtain ⟨named, connected⟩ := route_ok found
      rw [connected, target, targetOf, elsewhere?, elsewhere?, ← getD_eq_iff,
        standIn?, standIn?, named, Option.bind_some]
    refine ⟨u, rfl, ?lost, ?target, fun route => belongs, ?kept, ?recorded⟩
    case lost =>
      intro nobody
      rw [Route.of, nobody]
    case target =>
      intro host named
      obtain ⟨route, found⟩ := route_named q.handling named
      obtain ⟨again, connected⟩ := route_ok found
      have same : route.host = host := Option.some.inj (again.symm.trans named)
      rw [target, same] at connected
      exact ⟨route, found, same, connected⟩
    case kept =>
      intro keep route found
      have same := host_departure full unanswered keep
      rw [sent] at same
      rw [belongs found, elsewhere?, elsewhere?, standIn_same same]
    case recorded =>
      intro net limits now' book
      have records := dispatch_records net g.options limits now' book q
      have onward (timings) (later) := recordedUrl_sent full now timings later
      rw [sent] at onward
      revert records
      rcases dispatch net g.options limits now' book q with ⟨why | response, k⟩
      · rintro ⟨events, progress, passage⟩
        dsimp only
        rw [passage]
        cases progress with
        | unsent => exact .inl rfl
        | sent => exact .inr (onward _ [])
        | started wait => exact .inr (onward _ [_])
      · rintro ⟨wait, receive, passage⟩
        dsimp only
        rw [passage]
        exact onward _ _

/-- A proxy with a host that another one stands in for, and with an interceptor. -/
def replacing (host target : String) (f : RequestInterceptor) : Gateway where
  policy := Policy.made [.remap host target]
  interceptors := { requests := [f] }

/-- Someone with a request for a host. -/
def visitor : Client where
  id := "C"
  remote := { ip := .v4 127 0 0 1, port := 40000 }

/-- The root of a host. -/
def root (host : String) : Uri :=
  ⟨some .http, host, ⟨"/", none⟩⟩

/-- A proxy that adds a header to requests. -/
def tagging : Gateway :=
  replacing "a" "x" (Script.requestInterceptor [.header (.set "n" (Bytes.ofText "v"))])

/-- Adding a header leaves the connection with the stand-in. -/
theorem header_keeps_stand_in :
    let q := departure tagging .epoch visitor none { uri := root "A" }
    q.2 = none ∧ ∃ route, Route.of q.1.handling q.1.message.uri = .ok route ∧
      route.host = "A" ∧ route.connectHost = "x" ∧
      route.connectHost = targetOf tagging.policy route.host := by
  have unanswered : (departure tagging .epoch visitor none { uri := root "A" }).2 = none := by
    decide +kernel
  have named : (departure tagging .epoch visitor none { uri := root "A" }).1.message.uri.host? =
      some "A" := by decide +kernel
  have keep : ∀ f ∈ tagging.interceptors.requests, KeepsHost f :=
    List.forall_mem_singleton.mpr fun _ _ => rfl
  have target : targetOf tagging.policy "A" = "x" := by decide +kernel
  obtain ⟨u, full, sent⟩ :=
    connections_follow_rules tagging .epoch visitor none { uri := root "A" } unanswered
  obtain ⟨route, found, host, -⟩ := sent.target "A" named
  have belongs := sent.kept keep route found
  refine ⟨unanswered, route, found, host, ?_, belongs⟩
  rw [belongs, host, target]

/-- An interceptor that sends a request for one host to another one sends it to the stand-in of the
first. -/
theorem stand_in_outlives_host :
    let g := replacing "a" "x" (Script.requestInterceptor [.uri (root "b")])
    let q := departure g .epoch visitor none { uri := root "a" }
    q.2 = none ∧ q.1.message.uri = root "b" ∧ targetOf g.policy "b" = "b" ∧
      Route.of q.1.handling q.1.message.uri =
        .ok { host := "b", connectHost := "x", port := 80, secure := false } := by
  intro g q
  exact ⟨by decide +kernel, by decide +kernel, by decide +kernel, by decide +kernel⟩

end Wirelog.ConnectTargets
