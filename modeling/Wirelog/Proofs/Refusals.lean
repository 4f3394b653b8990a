import Wirelog.Gateway.Tunnel
import Wirelog.Proofs.PolicyHistory
import Wirelog.Proofs.StageLaws

/-! Requests for forbidden URLs. The stage that refuses them stands before all stages that change a
request, so a refused request is recorded under its full URL and then turned back as it is. What the
client gets depends on the forbidden and allowed URLs, the record and the interceptors of responses;
the network, and whatever else a policy says, has no part in it. -/
namespace Wirelog.Refusals
open Policy PolicyLaws PolicyHistory StageLaws Gateway

/-- Calls forbid a URL, or allow only others. -/
inductive Forbidden (h : List Update) (url : String) : Prop where
  | listed {rule : UrlPattern × Nat} (member : rule ∈ forbiddenUrls h) (hit : rule.1.isMatch url)
  | unlisted {patterns : List UrlPattern} {status : Nat}
      (limited : allowedUrls? h = some (patterns, status))
      (missed : ∀ pattern ∈ patterns, pattern.isMatch url = false)

/-! ## The status of a refusal -/

/-- Every status in a policy was checked. -/
structure Checked (p : Policy) : Prop where
  forbidden : ∀ rule ∈ p.blacklist, isRuleStatus rule.2
  allowed : ∀ patterns status, p.whitelist = some (patterns, status) → isRuleStatus status

theorem checked_made (changes : List Update) : Checked (made changes) := by
  refine made_induction (motive := fun _ p => Checked p) ⟨by simp, by simp⟩
    (fun _ p u q changed checked => ?_) changes
  cases changed with
  | @blacklist source status pattern inRange read =>
    refine ⟨fun rule member => ?_, checked.allowed⟩
    rcases List.mem_append.mp member with old | new
    · exact checked.forbidden rule old
    · obtain rfl := List.mem_singleton.mp new
      exact inRange
  | whitelist inRange read =>
    refine ⟨checked.forbidden, fun patterns status limited => ?_⟩
    cases limited
    exact inRange
  | clearBlacklist => exact ⟨by simp, checked.allowed⟩
  | clearWhitelist => exact ⟨checked.forbidden, by simp⟩
  | _ => exact ⟨checked.forbidden, checked.allowed⟩

/-- The status of a refusal was checked. -/
theorem status_of_refusal {p : Policy} (checked : Checked p) {url : String} {b : Block}
    (refused : p.block? url = some b) : 100 ≤ b.status ∧ b.status ≤ 599 := by
  suffices fine : isRuleStatus b.status by simpa [isRuleStatus] using fine
  cases (refuses_iff p url b).mpr refused with
  | @forbidden earlier later pattern status listed hit first =>
    exact checked.forbidden (pattern, status) (by simp [listed])
  | outside unforbidden limited unlisted => exact checked.allowed _ _ limited

/-- A status that was checked is the one that the client gets. -/
theorem status_is_kept {status : Nat} (inRange : 100 ≤ status ∧ status ≤ 599) (body : Bytes) :
    Http.Response.synthetic status body = { status, body } := by
  have code : 100 ≤ status ∧ status ≤ 999 := ⟨inRange.1, by omega⟩
  simp only [Http.Response.synthetic, code, and_self, ↓reduceIte]

/-- A forbidden URL is refused. -/
theorem refused_of_forbidden {changes : List Update} {url : String}
    (forbidden : Forbidden (accepted changes) url) : ∃ b, (made changes).block? url = some b := by
  simp only [block?, blacklist_made, whitelist_made]
  cases found : (forbiddenUrls (accepted changes)).find? (·.1.isMatch url) with
  | some rule => exact ⟨_, rfl⟩
  | none =>
    cases forbidden with
    | listed member hit => exact absurd hit (List.find?_eq_none.mp found _ member)
    | @unlisted patterns status limited missed =>
      have unmatched : patterns.any (·.isMatch url) = false := by simpa using missed
      exact ⟨.notWhitelisted status, by
        simp only [limited, unmatched, Bool.false_eq_true, ↓reduceIte]⟩

/-! ## The way of a refused request -/

/-- A request that was refused: recorded under its full URL, and otherwise as it came. -/
def turnedBack (now : Time.Instant) (p : Passage Http.Request) (uri : Http.Uri) (b : Block) :
    Passage Http.Request :=
  let (recorder, trace) :=
    p.recorder.begin now { p.message with uri } (some p.handling.connection)
  { recorder
    handling := { p.handling with trace := some trace, block := some b }
    message := { p.message with uri } }

/-- No stage behind the one that refuses has a part in the request. -/
theorem passRequest_refused (now : Time.Instant) {p : Passage Http.Request} {uri : Http.Uri}
    {b : Block} (full : p.handling.fullUrl? p.message = some uri)
    (refused : p.handling.policy.block? uri.text = some b) (later : List Stage) :
    Stage.passRequest now (.address :: .recording :: .enforcement :: later) p =
      (turnedBack now p uri b, some (Handling.refusal b)) := by
  rw [Stage.passRequest, address_full now full]
  simp only [Stage.passRequest, Stage.recording, Stage.enforcement, Handling.enforce, refused,
    turnedBack]

/-! ## The way of its answer -/

/-- Passages that cannot be told apart on the way back. -/
structure SameView (p q : Passage Http.Response) : Prop where
  recorder : q.recorder = p.recorder
  trace : q.handling.trace = p.handling.trace
  message : q.message = p.message

private theorem same_accept {p q : Passage Http.Response} (same : SameView p q)
    (now : Time.Instant) (i : Intercepted Http.Response) :
    SameView (p.accept now i) (q.accept now i) := by
  refine ⟨?_, same.trace, rfl⟩
  simp only [Passage.accept, Handling.place?, same.trace, same.recorder]

private theorem same_interceptResponse {p q : Passage Http.Response} (same : SameView p q)
    (now : Time.Instant) (fs : List ResponseInterceptor) :
    SameView (p.interceptResponse now fs) (q.interceptResponse now fs) := by
  induction fs generalizing p q with
  | nil => exact same
  | cons f rest ih =>
    have seen : f q.message (q.handling.log? q.recorder) =
        f p.message (p.handling.log? p.recorder) := by
      simp only [Handling.log?, Handling.place?, same.trace, same.recorder, same.message]
    simp only [Passage.interceptResponse, List.foldl_cons, seen]
    exact ih (same_accept same now _)

private theorem same_completed {p q : Passage Http.Response} (same : SameView p q)
    (now : Time.Instant) :
    SameView (Stage.recording.onResponse now p) (Stage.recording.onResponse now q) := by
  simp only [Stage.recording, same.trace, same.message]
  cases begun : p.handling.trace with
  | none => exact same
  | some t =>
    dsimp only
    split
    · exact same
    · constructor <;> simp only [Passage.record, same.trace, begun, same.recorder, same.message]

theorem same_passResponse {p q : Passage Http.Response} (same : SameView p q)
    (now : Time.Instant) {i j : Interceptors} (responses : j.responses = i.responses) :
    SameView (Stage.passResponse now (Stage.standard i) p)
      (Stage.passResponse now (Stage.standard j) q) := by
  rw [passResponse_standard, passResponse_standard, responses]
  exact same_completed (same_interceptResponse same now _) now

theorem same_close {p q : Passage Http.Response} (same : SameView p q) : q.close = p.close := by
  simp only [Passage.close, same.trace, same.recorder]

/-! ## The law of refusals -/

/-- Proxies that agree on all that a refused request depends on. -/
structure Agree (g h : Gateway) (s t : Surroundings) : Prop where
  recorder : h.recorder = g.recorder
  blacklist : h.policy.blacklist = g.policy.blacklist
  whitelist : h.policy.whitelist = g.policy.whitelist
  responses : h.interceptors.responses = g.interceptors.responses
  moment : t.moment = s.moment

/-- The answer to a refused request at the end of its way. -/
def answerOf (g : Gateway) (s : Surroundings) (c : Client) (inside : Option String)
    (r : Http.Request) (uri : Http.Uri) (b : Block) : Passage Http.Response :=
  Stage.passResponse s.moment (Stage.standard g.interceptors)
    ((turnedBack s.moment (g.arrival c inside r) uri b).replace (Handling.refusal b))

/-- What becomes of a request that is refused. -/
structure Refused (g : Gateway) (s : Surroundings) (c : Client) (inside : Option String)
    (r : Http.Request) (uri : Http.Uri) (b : Block) : Prop where
  /-- It comes to no stage behind the one that refuses it, and is changed by none before. -/
  stopped : ∀ later,
    Stage.passRequest s.moment (.address :: .recording :: .enforcement :: later)
      (g.arrival c inside r) =
    (turnedBack s.moment (g.arrival c inside r) uri b, some (Handling.refusal b))
  /-- It is answered at once. -/
  answered : g.exchange s c inside r =
    ({ g with recorder := (answerOf g s c inside r uri b).close },
      some (trimmedResponse (answerOf g s c inside r uri b).message))
  /-- The network has no part in this, nor has any other thing that a proxy is told or remembers. -/
  alone : ∀ h t, Agree g h s t → h.exchange t c inside r =
    ({ h with recorder := (g.exchange s c inside r).1.recorder }, (g.exchange s c inside r).2)
  /-- Unless interceptors change it, the answer is the status of the refusal and nothing else. -/
  plain : g.interceptors.responses = [] →
    (g.exchange s c inside r).2 = some { status := b.status }

private theorem exchange_refused {g : Gateway} {s : Surroundings} {c : Client}
    {inside : Option String} {r : Http.Request} {uri : Http.Uri} {b : Block}
    (full : (g.handlingFor c inside).fullUrl? (trimmedRequest r) = some uri)
    (refused : g.policy.block? uri.text = some b) :
    g.exchange s c inside r =
      ({ g with recorder := (answerOf g s c inside r uri b).close },
        some (trimmedResponse (answerOf g s c inside r uri b).message)) := by
  have way := passRequest_refused s.moment (p := g.arrival c inside r) full refused
    [.headers, .credentials, .interceptors g.interceptors]
  simp only [exchange, handle, Stage.standard, way, answerOf]

theorem refused_request {g : Gateway} {c : Client} {inside : Option String} {r : Http.Request}
    {uri : Http.Uri} {b : Block} (s : Surroundings)
    (full : (g.handlingFor c inside).fullUrl? (trimmedRequest r) = some uri)
    (refused : g.policy.block? uri.text = some b)
    (inRange : 100 ≤ b.status ∧ b.status ≤ 599) : Refused g s c inside r uri b := by
  constructor
  case stopped => exact passRequest_refused s.moment full refused
  case answered => exact exchange_refused full refused
  case alone =>
    intro h t agree
    -- The other proxy refuses for the same reason, and its passages carry another policy that
    -- nobody looks at any more.
    have there : h.policy.block? uri.text = some b := by
      simpa only [block?, agree.blacklist, agree.whitelist] using refused
    have turned : SameView ((turnedBack s.moment (g.arrival c inside r) uri b).replace
        (Handling.refusal b)) ((turnedBack s.moment (h.arrival c inside r) uri b).replace
        (Handling.refusal b)) := by
      constructor <;> simp only [Passage.replace, turnedBack, arrival, agree.recorder] <;> rfl
    have same : SameView (answerOf g s c inside r uri b) (answerOf h t c inside r uri b) := by
      rw [answerOf, answerOf, agree.moment]
      exact same_passResponse turned s.moment agree.responses
    rw [exchange_refused full refused, exchange_refused (g := h) (s := t) full there,
      same_close same, same.message]
  case plain =>
    intro unchanged
    rw [exchange_refused full refused, answerOf, passResponse_standard, message_of_response,
      unchanged, Passage.interceptResponse, List.foldl_nil, Passage.replace, Handling.refusal,
      status_is_kept inRange]
    rfl

theorem refused_tunnel {g : Gateway} {r : Http.Request} {b : Block} (s : Surroundings)
    (named : r.uri.authority.isEmpty = false)
    (undecrypted : g.intercepts (.ofAuthority r.uri.authority) = false)
    (refused : (Destination.ofAuthority r.uri.authority).block? g.policy = some b)
    (inRange : 100 ≤ b.status ∧ b.status ≤ 599) :
    g.tunnelTo s r = (g, .answer { status := b.status }) := by
  simp only [tunnelTo, named, undecrypted, refused, Bool.false_eq_true, ↓reduceIte,
    status_is_kept inRange]

/-- A URL that calls forbid is refused wherever a client asks for it: in a request, which then is
not sent on, and in a request for a tunnel, which then is not connected. -/
theorem forbidden_urls_are_refused (changes : List Update) (g : Gateway)
    (reached : g.policy = made changes) (url : String)
    (forbidden : Forbidden (accepted changes) url) :
    ∃ b, Refuses (forbiddenUrls (accepted changes)) (allowedUrls? (accepted changes)) url b ∧
      100 ≤ b.status ∧ b.status ≤ 599 ∧
      (∀ s c inside r uri, (g.handlingFor c inside).fullUrl? (trimmedRequest r) = some uri →
        uri.text = url → Refused g s c inside r uri b) ∧
      (∀ s r, r.uri.authority.isEmpty = false →
        let d := Destination.ofAuthority r.uri.authority
        g.intercepts d = false → d.url = url →
          g.tunnelTo s r = (g, .answer { status := b.status })) := by
  obtain ⟨b, refused⟩ := refused_of_forbidden forbidden
  have inRange := status_of_refusal (checked_made changes) refused
  rw [← reached] at refused
  refine ⟨b, ?_, inRange.1, inRange.2, ?_, ?_⟩
  · exact ((answers_made changes).refused url b).mpr (reached ▸ refused)
  · rintro s c inside r uri full rfl
    exact refused_request s full refused inRange
  · intro s r named d kept same
    exact refused_tunnel s named kept ((congrArg g.policy.block? same).trans refused) inRange

/-- Calls that forbid a host and allow no other. -/
def strict : List Update :=
  [.blacklist "https://h/.*" 451, .whitelist [] 403]

/-- The host is refused in requests and for tunnels, with the status that goes with it and not with
that of the others. -/
theorem strict_refuses_host :
    let g : Gateway := { policy := made strict }
    ∀ s c, (g.exchange s c none { uri := { scheme := some .https, authority := "h" } }).2 =
        some { status := 451 } ∧
      g.tunnelTo s { method := "CONNECT", uri := { authority := "h:443" } } =
        (g, .answer { status := 451 }) := by
  intro g s c
  have reason : (made strict).block? "https://h/" = some (.blacklisted 451) := by decide +kernel
  have forbidden : Forbidden (accepted strict) "https://h/" := by
    rw [← refuses_iff, blacklist_made] at reason
    cases reason with
    | forbidden listed hit first => exact .listed (listed ▸ List.mem_append_cons_self) hit
  obtain ⟨b, refuses, -, -, requests, tunnels⟩ :=
    forbidden_urls_are_refused strict g rfl "https://h/" forbidden
  obtain rfl : Block.blacklisted 451 = b := by
    have refused := ((answers_made strict).refused _ b).mp refuses
    exact Option.some.inj (reason.symm.trans refused)
  exact ⟨(requests s c none _ _ rfl (by decide +kernel)).plain rfl,
    tunnels s _ (by decide +kernel) (by decide +kernel) (by decide +kernel)⟩

end Wirelog.Refusals
