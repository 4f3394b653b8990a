import Wirelog.Proofs.LiteralHosts
import Wirelog.Proofs.SameAddress
import Wirelog.Proofs.TunnelChecks

/-! Where a tunnel that is not decrypted leads, and where a request out of a decrypted one is sent.
The tunnel goes by the host without brackets, the request by the host as it is written. Names and
addresses of version 4 have no brackets, so there both go the same way, from the search for a
stand-in to the words for another proxy. Of an address of version 6, stand-ins and other proxies
hear in two forms, and only who connects to it directly takes both for the same. -/
namespace Wirelog.TunnelTargets
open Http Gateway Forward AuthorityLaws FullUrls RuledRequests SameAddress

/-! ## The target of a request -/

/-- A URL that names a site, with or without a port that goes without saying. -/
def Names (s : Site) (u : Uri) : Prop :=
  u.authority = s.authority ∨ u.authority = (s.brief true).authority

variable {s : Site} {u : Uri} {policy : Policy}

theorem host_named (names : Names s u) : u.host? = some s.destination.host := by
  have host (t : Site) (same : u.authority = t.authority) :
      u.host? = some (String.ofList t.host) := by
    rw [Uri.host?, same, t.authority_filled, hostOf_site]
    rfl
  rw [host_destination]
  rcases names with same | same
  · exact host s same
  · exact host (s.brief true) same

theorem port_named (names : Names s u) : u.port?.getD 443 = s.destination.port := by
  have port (t : Site) (same : u.authority = t.authority) :
      u.port? = t.port.bind (Text.word? 16) := by
    rw [Uri.port?, same, t.authority_filled, portOf_site]
    rfl
  rw [port_destination]
  rcases names with same | same
  · rw [port s same]
  · -- A port of 443 is meant whether it is written or not.
    rw [port (s.brief true) same, port_brief]
    cases s.port with
    | none => rfl
    | some digits =>
      by_cases unsaid : digits = defaultDigits true
      · subst unsaid
        rfl
      · rw [Option.filter_some_pos (by simpa using unsaid)]

/-- A request that is on its way to a site over an encrypted connection: neither the rules nor the
interceptors have led it elsewhere. -/
structure Bound (policy : Policy) (s : Site) (now : Time.Instant) (i : Interceptors)
    (p : Passage Request) : Prop where
  governed : p.handling.policy = policy
  fresh : p.handling.connectHost = none
  ruled : ∃ u, p.handling.fullUrl? p.message = some u ∧ policy.block? u.text = none ∧
    Names s (ruledUri policy u)
  scheme : (Stage.passRequest now (Stage.standard i) p).1.message.uri.scheme = some .https
  sent : Names s (Stage.passRequest now (Stage.standard i) p).1.message.uri

/-- The route of a request to a site: the host is looked up, and connected to, as it is written. -/
def routeTo (policy : Policy) (s : Site) : Route where
  host := s.destination.host
  connectHost := (policy.remap? s.destination.host).getD s.destination.host
  port := s.destination.port
  secure := true

/-- The route that a request has behind the stages. -/
def routeBehind (now : Time.Instant) (i : Interceptors) (p : Passage Request) :
    Except Failure Route :=
  let q := (Stage.passRequest now (Stage.standard i) p).1
  Route.of q.handling q.message.uri

theorem route_of_bound {now : Time.Instant} {i : Interceptors} {p : Passage Request}
    (bound : Bound policy s now i p) : routeBehind now i p = .ok (routeTo policy s) := by
  obtain ⟨u, full, allowed, names⟩ := bound.ruled
  have governed : (begun p).policy = policy := bound.governed
  have target : (Stage.passRequest now (Stage.standard i) p).1.handling.connectHost =
      policy.remap? s.destination.host := by
    rw [(standard_ruled now i full).handling, connectHost_ruling (by rw [governed, allowed]), governed,
      host_named names, Option.bind_some]
    change Option.or _ p.handling.connectHost = _
    rw [bound.fresh, Option.or_none]
  have secure : (some Scheme.https == some Scheme.https) = true := rfl
  simp only [routeBehind, Route.of, host_named bound.sent, target, bound.scheme, secure, ↓reduceIte,
    port_named bound.sent, routeTo]

/-! ## The target of a tunnel -/

private theorem bareHost_bracketless {host : List Char} (plain : LiteralHosts.Bracketless host) :
    bareHost (String.ofList host) = String.ofList host := by
  have opened : host.dropWhile (· == '[') = host :=
    DigitRows.dropWhile_stops fun c first =>
      beq_false_of_ne (plain c (List.mem_of_mem_head? first)).1
  have closed : host.reverse.dropWhile (· == ']') = host.reverse :=
    DigitRows.dropWhile_stops fun c first =>
      beq_false_of_ne (plain c (List.mem_reverse.mp (List.mem_of_mem_head? first))).2
  simp only [bareHost, String.toList_ofList, opened, closed, List.reverse_reverse]

private theorem bracketless_host {host : List Char} (isHost : IsHost host)
    (unbracketed : '[' ∉ host) : LiteralHosts.Bracketless host := by
  cases isHost with
  | name filled plain =>
    intro c member
    have unmarked := plain c member
    simp only [isMark, Bool.or_eq_false_iff, beq_eq_false_iff_ne] at unmarked
    exact ⟨unmarked.1.2, unmarked.2⟩
  | bracketed plain => exact absurd List.mem_cons_self unbracketed

/-- Without brackets, a tunnel goes by the host as it is written. -/
theorem name_unbracketed (unbracketed : '[' ∉ s.host) :
    s.destination.name = s.destination.host := by
  rw [Destination.name, host_destination]
  exact bareHost_bracketless (bracketless_host s.isHost unbracketed)

private theorem opened_host {host : List Char} (isHost : IsHost host) (bracketed : '[' ∈ host) :
    ∃ inner, host = '[' :: inner := by
  cases isHost with
  | name filled plain => cases plain _ bracketed
  | bracketed plain => exact ⟨_, rfl⟩

/-- With brackets, it goes by a shorter host. -/
theorem name_bracketed (bracketed : '[' ∈ s.host) : s.destination.name ≠ s.destination.host := by
  obtain ⟨inner, written⟩ := opened_host s.isHost bracketed
  have front := (List.dropWhile_sublist (· == '[') (l := inner)).length_le
  have back := (List.dropWhile_sublist (· == ']')
    (l := (inner.dropWhile (· == '[')).reverse)).length_le
  intro same
  have length := congrArg (·.toList.length) same
  simp [Destination.name, bareHost, written] at length back
  omega

/-- Another proxy can tell from the words where a tunnel is to lead. -/
theorem tunnelRequest_inj {a b : String} {port : Nat}
    (same : tunnelRequest a port = tunnelRequest b port) : a = b := by
  have chars := congrArg String.toList same
  simp only [tunnelRequest, String.toList_append, List.append_assoc,
    List.append_cancel_left_eq] at chars
  -- The host stands in both lines, so equal heads have hosts of equal length.
  have length : a.toList.length = b.toList.length := by
    have total := congrArg List.length chars
    simp only [List.length_append] at total
    omega
  exact String.toList_injective (List.append_inj_left chars length)

/-- Where a tunnel to a site leads, against where requests for the site are sent. -/
structure Targets (policy : Policy) (s : Site) : Prop where
  /-- To the same host, if it is written without brackets. -/
  unbracketed : '[' ∉ s.host →
    s.destination.connectHost policy = (routeTo policy s).connectHost
  /-- To another one, if it is written with brackets and has no stand-in. -/
  bracketed : '[' ∈ s.host →
    policy.remap? s.destination.name = none → policy.remap? s.destination.host = none →
    s.destination.connectHost policy ≠ (routeTo policy s).connectHost
  /-- The same host is looked up, connected to and named to another proxy in the same way. -/
  together : s.destination.connectHost policy = (routeTo policy s).connectHost → ∀ net o,
    Send.reach net o (routeTo policy s) = do
      let w ← Send.passage net o (s.destination.connectHost policy) s.destination.port
      Send.secure net o w s.destination.host
  /-- Different hosts are named to another proxy in different ways. -/
  apart : s.destination.connectHost policy ≠ (routeTo policy s).connectHost →
    tunnelRequest (s.destination.connectHost policy) s.destination.port ≠
      tunnelRequest (routeTo policy s).connectHost (routeTo policy s).port
  /-- An address without stand-ins is connected to in the same way, brackets or not. -/
  literal : ∀ ip, Net.Ip.parse? s.destination.name = some ip →
    policy.remap? s.destination.name = none → policy.remap? s.destination.host = none →
    ∀ net o j,
      let tunnel := (Send.connect net o (s.destination.connectHost policy)
        s.destination.port).run.run j
      let request := (Send.connect net o (routeTo policy s).connectHost
        (routeTo policy s).port).run.run j
      request.2 = tunnel.2 ∧ SameEnd tunnel.1 request.1

theorem targets (policy : Policy) (s : Site) : Targets policy s := by
  constructor
  case unbracketed =>
    intro unbracketed
    rw [Destination.connectHost, name_unbracketed unbracketed, routeTo]
  case bracketed =>
    intro bracketed nobody noone
    rw [Destination.connectHost, routeTo, nobody, noone]
    exact name_bracketed bracketed
  case together =>
    intro same net o
    rw [Send.reach, Send.passage, ← same]
    cases o.relay with
    | some relay => simp only [routeTo, ↓reduceIte, bind_assoc]
    | none => simp only [routeTo, ↓reduceIte]
  case apart => exact fun other same => other (tunnelRequest_inj same)
  case literal =>
    intro ip literal nobody noone net o j
    have written : Resolution.literal? s.destination.host = some ip := literal
    have bare := (LiteralHosts.literal_of_parse literal).1
    simp only [Destination.connectHost, routeTo, nobody, noone, Option.getD_none]
    exact connect_same bare written net o _ j

/-- A request for a site is sent by the host as it is written. A tunnel to the site leads to the same
host by the same way if there are no brackets, and otherwise where the host without them leads. -/
theorem targets_of_site {now : Time.Instant} {i : Interceptors} {p : Passage Request}
    (bound : Bound policy s now i p) :
    routeBehind now i p = .ok (routeTo policy s) ∧ Targets policy s :=
  ⟨route_of_bound bound, targets policy s⟩

open TunnelChecks in
theorem bracketed_targets :
    let p := rootOf {} (Bytes.ofText "[::1]:8443")
    Bound {} bracketed .epoch {} p ∧ routeBehind .epoch {} p = .ok (routeTo {} bracketed) ∧
      Targets {} bracketed := by
  have bound : Bound {} bracketed .epoch {} (rootOf {} (Bytes.ofText "[::1]:8443")) := by
    refine ⟨rfl, rfl, ⟨⟨some .https, "[::1]:8443", ⟨"/", none⟩⟩, ?_, rfl, .inl ?_⟩, ?_, .inl ?_⟩
    all_goals decide +kernel
  exact ⟨bound, targets_of_site bound⟩

open TunnelChecks in
/-- A tunnel to an address of version 6 follows a rule for the address, and requests for it do not.
Without the rule, both are named to another proxy in different ways. -/
theorem bracketed_targets_differ :
    let policy := Policy.made [.remap "::1" "x"]
    bracketed.destination.connectHost policy = "x" ∧
      routeBehind .epoch {} (rootOf policy (Bytes.ofText "[::1]:8443")) =
        .ok { host := "[::1]", connectHost := "[::1]", port := 8443, secure := true } ∧
      tunnelRequest (bracketed.destination.connectHost {}) bracketed.destination.port =
        "CONNECT ::1:8443 HTTP/1.1\r\nHost: ::1:8443\r\n\r\n" ∧
      tunnelRequest (routeTo {} bracketed).connectHost (routeTo {} bracketed).port =
        "CONNECT [::1]:8443 HTTP/1.1\r\nHost: [::1]:8443\r\n\r\n" := by
  decide +kernel

end Wirelog.TunnelTargets
