import Wirelog.Gateway.Overlap
import Wirelog.Policy.Shelf

/-! Which policy a request goes by while policies change. A request to pass on reads the policy in
its first step and carries it from there, so all its stages go by one policy. A request for a tunnel
reads twice, and what is decided then need not agree: it may be let through under one policy and led
to a host that only another one names, though no policy would have done both. -/
namespace Wirelog.RequestPolicies
open Gateway Overlap

variable {α : Type}

/-- How far a request comes in the same steps while a policy stays in force. -/
def undisturbed (advance : Policy → α → α) (start : α) (policy : Policy) (events : List Event) :
    α :=
  (Scene.run advance ⟨policy, start⟩ (events.filter (· matches .advance))).progress

/-- A request comes as far as it would have come under one policy, which was in force at some time
since it arrived. -/
def OnePolicy (advance : Policy → α → α) (start : α) (first : Policy) (events : List Event) :
    Prop :=
  ∃ policy ∈ policies first events,
    (Scene.run advance ⟨first, start⟩ events).progress = undisturbed advance start policy events

theorem first_in_force (first : Policy) (events : List Event) : first ∈ policies first events := by
  induction events with
  | nil => exact List.mem_singleton_self _
  | cons event rest ih =>
    cases event with
    | change update => exact List.mem_cons_self
    | advance => exact ih

theorem changed_in_force (first : Policy) (before : List Policy.Update) (rest : List Event) :
    first.changed before ∈ policies first (before.map .change ++ rest) := by
  induction before generalizing first with
  | nil => exact first_in_force first rest
  | cons update before ih => exact List.mem_cons_of_mem _ (ih _)

/-- While a request waits, only the policy changes. -/
theorem run_changes (advance : Policy → α → α) (first : Policy) (x : α)
    (before : List Policy.Update) (rest : List Event) :
    Scene.run advance ⟨first, x⟩ (before.map .change ++ rest) =
      Scene.run advance ⟨first.changed before, x⟩ rest := by
  induction before generalizing first with
  | nil => rfl
  | cons update before ih => exact ih _

theorem undisturbed_changes (advance : Policy → α → α) (x : α) (policy : Policy)
    (before : List Policy.Update) (rest : List Event) :
    undisturbed advance x policy (before.map .change ++ rest) =
      undisturbed advance x policy rest := by
  have dropped : (before.map Event.change).filter (· matches .advance) = [] := by
    simp [List.filter_eq_nil_iff]
  rw [undisturbed, List.filter_append, dropped, List.nil_append, undisturbed]

/-- A request waits for a time, and then takes its first step, if it ever does. -/
theorem waits_or_advances (events : List Event) :
    (∃ updates : List Policy.Update, events = updates.map .change) ∨
      ∃ (before : List Policy.Update) (rest : List Event),
        events = before.map .change ++ .advance :: rest := by
  induction events with
  | nil => exact .inl ⟨[], rfl⟩
  | cons event rest ih =>
    cases event with
    | advance => exact .inr ⟨[], rest, rfl⟩
    | change update =>
      rcases ih with ⟨updates, rfl⟩ | ⟨before, later, rfl⟩
      · exact .inl ⟨update :: updates, rfl⟩
      · exact .inr ⟨update :: before, later, rfl⟩

/-! ## Requests to pass on -/

section Exchange

variable (g : Gateway) (s : Surroundings) (c : Client) (inside : Option String) (r : Http.Request)

/-- Once its handling has begun, a request goes on in the same way under every policy. -/
theorem advance_underway {x : ExchangeProgress} (begun : x ≠ .arrived) (p q : Policy) :
    advanceExchange g s c inside r p x = advanceExchange g s c inside r q x ∧
      advanceExchange g s c inside r p x ≠ .arrived := by
  cases x with
  | arrived => exact absurd rfl begun
  | passed => exact ⟨rfl, ExchangeProgress.noConfusion⟩
  | passing rest passage =>
    cases rest with
    | nil => exact ⟨rfl, ExchangeProgress.noConfusion⟩
    | cons stage rest =>
      refine ⟨rfl, ?_⟩
      simp only [advanceExchange]
      split <;> exact ExchangeProgress.noConfusion

theorem run_underway {x : ExchangeProgress} (begun : x ≠ .arrived) (p q : Policy)
    (events : List Event) :
    (Scene.run (advanceExchange g s c inside r) ⟨p, x⟩ events).progress =
      undisturbed (advanceExchange g s c inside r) x q events := by
  induction events generalizing p x with
  | nil => rfl
  | cons event rest ih =>
    cases event with
    | change update => exact ih begun _
    | advance =>
      -- The step is the same under both policies, so the runs meet in the same place.
      obtain ⟨same, underway⟩ := advance_underway g s c inside r begun p q
      have onward := ih underway p
      rw [same] at onward
      exact (congrArg (fun y => (Scene.run _ ⟨p, y⟩ rest).progress) same).trans onward

/-- A request to pass on goes by the policy that was in force at its first step, whatever changes
come later. -/
theorem exchange_reads_once (first : Policy) (before : List Policy.Update) (rest : List Event) :
    (Scene.run (advanceExchange g s c inside r) ⟨first, .arrived⟩
        (before.map .change ++ .advance :: rest)).progress =
      undisturbed (advanceExchange g s c inside r) .arrived (first.changed before)
        (before.map .change ++ .advance :: rest) := by
  rw [run_changes, undisturbed_changes]
  exact run_underway g s c inside r ExchangeProgress.noConfusion _ _ rest

theorem exchange_one_policy (first : Policy) (events : List Event) :
    OnePolicy (advanceExchange g s c inside r) .arrived first events := by
  rcases waits_or_advances events with ⟨updates, rfl⟩ | ⟨before, rest, rfl⟩
  · refine ⟨first, first_in_force first _, ?_⟩
    rw [← List.append_nil (updates.map _), run_changes, undisturbed_changes]
    rfl
  · exact ⟨first.changed before, changed_in_force first before _,
      exchange_reads_once g s c inside r first before rest⟩

/-- What a request comes to when it goes on under a policy. -/
def prospect (policy : Policy) : ExchangeProgress → Passage Http.Request × Option Http.Response
  | .arrived =>
    Stage.passRequest s.moment (Stage.standard g.interceptors)
      ({ g with policy }.arrival c inside r)
  | .passing rest p => Stage.passRequest s.moment rest p
  | .passed p answer => (p, answer)

theorem prospect_advance (policy : Policy) (x : ExchangeProgress) :
    prospect g s c inside r policy (advanceExchange g s c inside r policy x) =
      prospect g s c inside r policy x := by
  cases x with
  | arrived => rfl
  | passed => rfl
  | passing rest p =>
    cases rest with
    | nil => rfl
    | cons stage rest =>
      rcases went : stage.onRequest s.moment p with ⟨q, answer⟩
      cases answer <;> simp only [advanceExchange, prospect, Stage.passRequest, went]

/-- Under one policy, the steps come to what the stages come to in one go. -/
theorem prospect_undisturbed (policy : Policy) (x : ExchangeProgress) (events : List Event) :
    prospect g s c inside r policy
        (undisturbed (advanceExchange g s c inside r) x policy events) =
      prospect g s c inside r policy x := by
  induction events generalizing x with
  | nil => rfl
  | cons event rest ih =>
    cases event with
    | change update => exact ih x
    | advance => exact (ih _).trans (prospect_advance g s c inside r policy x)

/-- How many steps a request has before it until it has left the stages. -/
def stepsLeft : ExchangeProgress → Nat
  | .arrived => 8
  | .passing rest _ => rest.length + 1
  | .passed .. => 0

theorem steps_advance (policy : Policy) (x : ExchangeProgress) :
    stepsLeft (advanceExchange g s c inside r policy x) ≤ stepsLeft x - 1 := by
  cases x with
  | arrived => exact Nat.le_refl 7
  | passed => exact Nat.le_refl 0
  | passing rest p =>
    cases rest with
    | nil => exact Nat.le_refl 0
    | cons stage rest =>
      simp only [advanceExchange]
      split
      · exact Nat.zero_le _
      · exact Nat.le_refl _

/-- Changes of the policy do not keep a request from going on. -/
theorem exchange_finishes (scene : Scene ExchangeProgress) (events : List Event)
    (enough : stepsLeft scene.progress ≤ events.countP (· matches .advance)) :
    ∃ p answer,
      (Scene.run (advanceExchange g s c inside r) scene events).progress = .passed p answer := by
  induction events generalizing scene with
  | nil =>
    obtain ⟨policy, x⟩ := scene
    cases x with
    | passed p answer => exact ⟨p, answer, rfl⟩
    | arrived => cases enough
    | passing => cases enough
  | cons event rest ih =>
    refine ih (scene.after _ event) ?_
    cases event with
    | change update => exact enough
    | advance =>
      have fewer := steps_advance g s c inside r scene.policy scene.progress
      simp only [List.countP_cons, ↓reduceIte] at enough
      simp only [Scene.after]
      omega

end Exchange

/-! ## Requests for tunnels -/

/-- The events of a request for a tunnel: changes before it is checked, and changes between that
and its connection. -/
def tunnelEvents (before between : List Policy.Update) : List Event :=
  before.map .change ++ .advance :: (between.map .change ++ [.advance])

/-- The check goes by the policy of its moment, and the connection by that of its own. -/
theorem tunnel_reads_twice (d : Destination) (first : Policy)
    (before between : List Policy.Update) :
    (Scene.run (advanceTunnel d) ⟨first, .arrived⟩ (tunnelEvents before between)).progress =
      match d.block? (first.changed before) with
      | some b => .refused b
      | none => .connected (d.connectHost (first.changed (before ++ between))) := by
  have last : first.changed (before ++ between) = (first.changed before).changed between :=
    List.foldl_append
  rw [tunnelEvents, run_changes, last]
  change (Scene.run (advanceTunnel d) ⟨_, advanceTunnel d (first.changed before) .arrived⟩
    (between.map .change ++ [.advance])).progress = _
  rw [run_changes]
  simp only [Scene.run, List.foldl_cons, List.foldl_nil, Scene.after]
  cases refused : d.block? (first.changed before) <;> simp only [advanceTunnel, refused]

/-- Under one policy, both go by this policy. -/
theorem tunnel_undisturbed (d : Destination) (policy : Policy)
    (before between : List Policy.Update) :
    undisturbed (advanceTunnel d) .arrived policy (tunnelEvents before between) =
      match d.block? policy with
      | some b => .refused b
      | none => .connected (d.connectHost policy) := by
  rw [tunnelEvents, undisturbed_changes]
  change undisturbed (advanceTunnel d) (advanceTunnel d policy .arrived) policy
    (between.map .change ++ [.advance]) = _
  rw [undisturbed_changes]
  change advanceTunnel d policy (advanceTunnel d policy .arrived) = _
  cases refused : d.block? policy <;> simp only [advanceTunnel, refused]

/-- A request for a tunnel that is not decrypted is served as these steps say. -/
theorem tunnelTo_in_steps {g : Gateway} {r : Http.Request} (s : Surroundings)
    (named : r.uri.authority.isEmpty = false)
    (undecrypted : g.intercepts (.ofAuthority r.uri.authority) = false) :
    let d := Destination.ofAuthority r.uri.authority
    match undisturbed (advanceTunnel d) .arrived g.policy (tunnelEvents [] []) with
    | .refused b => g.tunnelTo s r = (g, .answer (.synthetic b.status .empty))
    | .connected host => g.tunnelTo s r = g.connectTunnel s d ∧ host = d.connectHost g.policy
    | _ => False := by
  simp only [tunnel_undisturbed, tunnelTo, named, undecrypted, Bool.false_eq_true, ↓reduceIte]
  cases (Destination.ofAuthority r.uri.authority).block? g.policy with
  | some b => rfl
  | none => exact ⟨rfl, rfl⟩

/-- A request for a tunnel goes by one policy if the first one that it reads refuses it, or if some
policy in force would have let it through and led it to the same host. -/
theorem tunnel_one_policy_iff (d : Destination) (first : Policy)
    (before between : List Policy.Update) :
    OnePolicy (advanceTunnel d) .arrived first (tunnelEvents before between) ↔
      (d.block? (first.changed before)).isSome ∨
        ∃ policy ∈ policies first (tunnelEvents before between), d.block? policy = none ∧
          d.connectHost policy = d.connectHost (first.changed (before ++ between)) := by
  simp only [OnePolicy, tunnel_reads_twice, tunnel_undisturbed]
  cases refused : d.block? (first.changed before) with
  | some b =>
    exact iff_of_true ⟨first.changed before, changed_in_force first before _,
      by simp only [refused]⟩ (.inl rfl)
  | none =>
    simp only [Option.isSome_none, Bool.false_eq_true, false_or]
    refine exists_congr fun policy => and_congr_right fun _ => ?_
    cases d.block? policy with
    | some b => simp
    | none => simp [eq_comm]

/-! ## Which policies requests go by -/

/-- What requests go by while calls change the policy. -/
structure PolicyUse (g : Gateway) (s : Surroundings) (c : Client) (inside : Option String)
    (r : Http.Request) (d : Destination) (first : Policy) : Prop where
  /-- A request to pass on goes by one policy at every step. -/
  exchange : ∀ events, OnePolicy (advanceExchange g s c inside r) .arrived first events
  /-- It leaves the stages after a fixed number of steps. -/
  finished : ∀ events, 8 ≤ events.countP (· matches .advance) → ∃ p answer,
    (Scene.run (advanceExchange g s c inside r) ⟨first, .arrived⟩ events).progress =
      .passed p answer
  /-- Having left the stages, it is as they leave it under the policy in force at its first step. -/
  stages : ∀ before rest p answer,
    (Scene.run (advanceExchange g s c inside r) ⟨first, .arrived⟩
      (before.map .change ++ .advance :: rest)).progress = .passed p answer →
    Stage.passRequest s.moment (Stage.standard g.interceptors)
      ({ g with policy := first.changed before }.arrival c inside r) = (p, answer)
  /-- A request for a tunnel is let through by the policy in force at its check, and led to a host
  by the one in force at its connection. -/
  tunnel : ∀ before between,
    (Scene.run (advanceTunnel d) ⟨first, .arrived⟩ (tunnelEvents before between)).progress =
      match d.block? (first.changed before) with
      | some b => .refused b
      | none => .connected (d.connectHost (first.changed (before ++ between)))
  /-- So it goes by one policy only if these happen to agree with one that was in force. -/
  agreement : ∀ before between,
    OnePolicy (advanceTunnel d) .arrived first (tunnelEvents before between) ↔
      (d.block? (first.changed before)).isSome ∨
        ∃ policy ∈ policies first (tunnelEvents before between), d.block? policy = none ∧
          d.connectHost policy = d.connectHost (first.changed (before ++ between))
  /-- These are the steps that serve it, undisturbed by any call, if the tunnel is not decrypted. -/
  served : d = .ofAuthority r.uri.authority → r.uri.authority.isEmpty = false →
    g.intercepts d = false →
    match undisturbed (advanceTunnel d) .arrived g.policy (tunnelEvents [] []) with
    | .refused b => g.tunnelTo s r = (g, .answer (.synthetic b.status .empty))
    | .connected host => g.tunnelTo s r = g.connectTunnel s d ∧ host = d.connectHost g.policy
    | _ => False

/-- Requests to pass on go by one policy, and requests for tunnels by two. -/
theorem policies_of_requests (g : Gateway) (s : Surroundings) (c : Client)
    (inside : Option String) (r : Http.Request) (d : Destination) (first : Policy) :
    PolicyUse g s c inside r d first := by
  constructor
  case exchange => exact exchange_one_policy g s c inside r first
  case finished => exact fun events => exchange_finishes g s c inside r ⟨first, .arrived⟩ events
  case stages =>
    intro before rest p answer passed
    have comes := prospect_undisturbed g s c inside r (first.changed before) .arrived
      (before.map .change ++ .advance :: rest)
    rw [← exchange_reads_once, passed] at comes
    exact comes.symm
  case tunnel => exact tunnel_reads_twice d first
  case agreement => exact tunnel_one_policy_iff d first
  case served =>
    rintro rfl named undecrypted
    exact tunnelTo_in_steps s named undecrypted

/-- A tunnel to a host, between whose check and connection all hosts are forbidden and the host then
gets a stand-in, is connected to the stand-in, which no policy would have done. -/
theorem tunnel_under_no_policy :
    ¬ OnePolicy (advanceTunnel (.ofAuthority "h:443")) .arrived {}
      (tunnelEvents [] [.whitelist [] 403, .remap "h" "x"]) := by
  rintro ⟨policy, member, same⟩
  rw [tunnel_undisturbed] at same
  have connected : (Scene.run (advanceTunnel (.ofAuthority "h:443")) ⟨{}, .arrived⟩
      (tunnelEvents [] [.whitelist [] 403, .remap "h" "x"])).progress = .connected "x" := rfl
  rw [connected] at same
  have steps : policies {} (tunnelEvents [] [.whitelist [] 403, .remap "h" "x"]) =
      [{}, { whitelist := some ([], 403) },
        { whitelist := some ([], 403), remaps := [("h", "x")] }] := rfl
  rw [steps] at member
  simp only [List.mem_cons, List.not_mem_nil, or_false] at member
  rcases member with rfl | rfl | rfl <;> exact absurd same (by decide +kernel)

end Wirelog.RequestPolicies
