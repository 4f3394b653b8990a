import Wirelog.Proofs.FullUrls
import Wirelog.Proofs.PolicyHistory
import Wirelog.Proofs.RuledRequests

/-! The check of a tunnel against the check of a request that comes out of one. For a tunnel, the URL
is put together from the host and the number of the port; for a request, from the authority as it is
written, and it is read again. Both are the same URL, and so both get the same decision, as long as
the port is a number of 16 bits and the URL is not too long to be read. -/
namespace Wirelog.TunnelChecks
open Text Http Gateway AuthorityLaws FullUrls RuledRequests DigitRows

/-! ## The URL of a tunnel -/

/-- A site whose port is written as the plain number, if it has one. -/
def Plain (s : Site) (n : Option Nat) : Prop :=
  s.port = n.map (Nat.toDigits 10)

/-- A host with the number of a port, if there is one. -/
def numbered (host : List Char) (n : Option Nat) : String :=
  String.ofList (host ++ portTail (n.map (Nat.toDigits 10)))

private theorem toDigits_inj {a b : Nat} (same : Nat.toDigits 10 a = Nat.toDigits 10 b) : a = b := by
  have read := congrArg (numeral 10 digitValue) same
  rw [numeral_toDigits, numeral_toDigits] at read
  exact Option.some.inj read

theorem numbered_inj {host : List Char} {m n : Option Nat}
    (same : numbered host m = numbered host n) : m = n := by
  have tails := List.append_cancel_left (String.ofList_injective same)
  cases m with
  | none =>
    cases n with
    | none => rfl
    | some b => cases tails
  | some a =>
    cases n with
    | none => cases tails
    | some b => rw [toDigits_inj (List.cons.inj tails).2]

variable {s : Site} {n : Option Nat}

theorem port_plain (plain : Plain s n) :
    s.destination.port = (n.filter (· < 65536)).getD 443 := by
  rw [port_destination, plain]
  cases n with
  | none => rfl
  | some k =>
    rw [Option.map_some, Option.bind_some, word_toDigits, Option.filter_some]
    simp only [decide_eq_true_eq]
    rfl

/-- The URL that is asked about does not name port 443, whether it was written or not. -/
theorem url_of_site (plain : Plain s n) :
    s.destination.url =
      fullText .https (numbered s.host ((n.filter (· < 65536)).filter (· != 443))) "/" := by
  rw [Destination.url, host_destination, port_plain plain]
  cases n.filter (· < 65536) with
  | none => simp [numbered, fullText, portTail, Scheme.text, String.append_assoc]
  | some k =>
    rw [Option.filter_some]
    by_cases unsaid : k = 443
    · simp [numbered, fullText, portTail, Scheme.text, String.append_assoc, unsaid]
    · simp [numbered, fullText, portTail, Scheme.text, String.append_assoc, unsaid, natText]

theorem brief_plain (plain : Plain s n) :
    (s.brief true).authority = numbered s.host (n.filter (· != 443)) := by
  have kept : s.port.filter (· != defaultDigits true) =
      (n.filter (· != 443)).map (Nat.toDigits 10) := by
    rw [plain]
    cases n with
    | none => rfl
    | some k =>
      by_cases unsaid : k = 443
      · subst unsaid
        rfl
      · have apart : Nat.toDigits 10 k ≠ defaultDigits true := fun same => unsaid (toDigits_inj same)
        simp [Option.filter_some, unsaid, apart]
  rw [Site.authority, numbered, ← kept]
  rfl

/-- Both ways to put the URL together come to the same just where the port is one. -/
theorem same_url_iff (plain : Plain s n) :
    fullText .https (s.brief true).authority "/" = s.destination.url ↔
      ∀ k, n = some k → k < 65536 := by
  rw [url_of_site plain, brief_plain plain]
  constructor
  · rintro same k rfl
    have seen := numbered_inj (fullText_inj same)
    by_contra large
    -- A request names such a port, and a tunnel takes it for none.
    have said : k ≠ 443 := by omega
    simp [Option.filter_some, large, said] at seen
  · intro small
    cases n with
    | none => rfl
    | some k =>
      have whole : (some k).filter (· < 65536) = some k := by simpa [Option.filter_some] using small
      rw [whole]

/-! ## The two checks -/

/-- A request for a tunnel to a site, which is not decrypted. -/
structure SealedTunnel (g : Gateway) (s : Site) (r : Request) : Prop where
  named : r.uri.authority = s.authority
  undecrypted : g.intercepts s.destination = false

/-- A request for the root of a site, out of a tunnel that is decrypted. -/
structure RootRequest (policy : Policy) (s : Site) (p : Passage Request) : Prop where
  secure : p.handling.secure = true
  policy : p.handling.policy = policy
  fresh : p.handling.block = none
  target : p.message.uri = { target := ⟨"/", none⟩ }
  meant : p.message.headers.text? "host" = some s.authority

/-- The port is one, and the URL of the site can be read. -/
structure Ordinary (s : Site) (n : Option Nat) : Prop where
  port : ∀ k, n = some k → k < 65536
  size : s.destination.url.utf8ByteSize ≤ Uri.maxLength

variable {g : Gateway} {connect : Request} {p : Passage Request}

theorem tunnelTo_sealed (tunnel : SealedTunnel g s connect) (t : Surroundings) :
    g.tunnelTo t connect =
      match s.destination.block? g.policy with
      | some b => (g, .answer (Handling.refusal b))
      | none => g.connectTunnel t s.destination := by
  have undecrypted := tunnel.undecrypted
  rw [Site.destination] at undecrypted ⊢
  simp only [tunnelTo, tunnel.named, s.authority_filled, undecrypted, Bool.false_eq_true,
    ↓reduceIte]
  rfl

theorem root_url (root : RootRequest g.policy s p) :
    p.handling.fullUrl? p.message =
      if (fullText .https (s.brief true).authority "/").utf8ByteSize ≤ Uri.maxLength then
        some ⟨some .https, (s.brief true).authority, ⟨"/", none⟩⟩
      else none := by
  have form : OriginForm p.message.uri := by
    rw [root.target]
    exact (@originForm_of_parse "/" _ rfl (by decide +kernel)).1
  have meant : p.handling.authorityFor p.message = s.authority := by
    rw [Handling.authorityFor, root.meant]
    rfl
  have scheme : p.handling.scheme = .https := by rw [Handling.scheme, root.secure]; rfl
  rw [fullUrl_site form meant, root.secure, scheme, root.target]
  rfl

theorem text_root (authority : String) :
    Uri.text ⟨some .https, authority, ⟨"/", none⟩⟩ = fullText .https authority "/" :=
  text_full rfl

/-- The tunnel and the request get the same decision about the same URL. -/
structure ChecksAgree (g : Gateway) (s : Site) (connect : Request) (p : Passage Request) :
    Prop where
  url : (p.handling.fullUrl? p.message).map Uri.text =
    some s.destination.url
  block : ∀ now i, (Stage.passRequest now (Stage.standard i) p).1.handling.block =
    s.destination.block? g.policy
  refused : ∀ b, s.destination.block? g.policy = some b →
    (∀ now i, (Stage.passRequest now (Stage.standard i) p).2 = some (Handling.refusal b)) ∧
      ∀ t, g.tunnelTo t connect = (g, .answer (Handling.refusal b))
  admitted : s.destination.block? g.policy = none →
    ∀ t, g.tunnelTo t connect = g.connectTunnel t s.destination

theorem checks_of_url {u : Uri} (tunnel : SealedTunnel g s connect)
    (root : RootRequest g.policy s p) (full : p.handling.fullUrl? p.message = some u)
    (same : u.text = s.destination.url) : ChecksAgree g s connect p := by
  have asked : (begun p).policy.block? u.text =
      s.destination.block? g.policy := by
    rw [begun, root.policy, same]
    rfl
  constructor
  case url => rw [full, Option.map_some, same]
  case block =>
    intro now i
    rw [(standard_ruled now i full).handling, block_ruling, asked, begun, root.fresh, Option.or_none]
  case refused =>
    intro b refused
    constructor
    · intro now i
      refine (standard_ruled now i full).refused _ ?_
      rw [answer_ruling, asked, refused, Option.map_some]
    · intro t
      rw [tunnelTo_sealed tunnel, refused]
  case admitted =>
    intro admitted t
    rw [tunnelTo_sealed tunnel, admitted]

/-- For a port of 16 bits and a URL that can be read, a tunnel is checked as a request for the root
of its site is. Otherwise they are checked under different URLs, or the request gets none. -/
theorem checks_of_site (plain : Plain s n) (tunnel : SealedTunnel g s connect)
    (root : RootRequest g.policy s p) :
    (Ordinary s n → ChecksAgree g s connect p) ∧
      ((p.handling.fullUrl? p.message).map Uri.text =
        some s.destination.url → Ordinary s n) := by
  have full := root_url root
  constructor
  · intro ordinary
    have same := (same_url_iff plain).mpr ordinary.port
    rw [if_pos (same ▸ ordinary.size)] at full
    exact checks_of_url tunnel root full ((text_root _).trans same)
  · intro same
    rw [full] at same
    split at same
    · rename_i short
      rw [Option.map_some, text_root, Option.some.injEq] at same
      exact ⟨(same_url_iff plain).mp same, same ▸ short⟩
    · cases same

/-- An address of version 6 with a port. -/
def bracketed : Site where
  host := ['[', ':', ':', '1', ']']
  port := some ['8', '4', '4', '3']
  isHost := .bracketed (s := [':', ':', '1']) (by simp)
  isPort := by
    rintro digits ⟨⟩
    exact List.all_eq_true.mp rfl
  isAuthority := @isAuthority_of_parse "[::1]:8443" { authority := "[::1]:8443" }
    (by decide +kernel) (by decide +kernel)

/-- A proxy that refuses everything. -/
def closed : Gateway :=
  { policy := Policy.made [.whitelist [] 403] }

/-- A request for the root of a site, with the octets of its `host` header. -/
def rootOf (policy : Policy) (host : Bytes) : Passage Request where
  recorder := {}
  handling := { secure := true, policy }
  message := { uri := { target := ⟨"/", none⟩ }, headers := .ofList [("host", host)] }

theorem bracketed_checks :
    Plain bracketed (some 8443) ∧ Ordinary bracketed (some 8443) ∧
      ChecksAgree closed bracketed { method := "CONNECT", uri := { authority := "[::1]:8443" } }
        (rootOf closed.policy (Bytes.ofText "[::1]:8443")) := by
  have plain : Plain bracketed (some 8443) := by
    unfold Plain
    decide +kernel
  have ordinary : Ordinary bracketed (some 8443) :=
    ⟨by rintro k ⟨⟩; decide, by decide +kernel⟩
  refine ⟨plain, ordinary, (checks_of_site plain ⟨by decide +kernel, by decide +kernel⟩
    ⟨rfl, rfl, rfl, rfl, by decide +kernel⟩).1 ordinary⟩

/-! ## Where the checks differ -/

private theorem plain_letters {k : Nat} {c : Char} (member : c ∈ List.replicate k 'h') :
    IsPlain c ∧ isMark c = false ∧ endsAuthority c = false ∧ isSchemeChar c = true := by
  rw [List.eq_of_mem_replicate member]
  exact ⟨⟨by decide, rfl, rfl⟩, rfl, rfl, by decide⟩

/-- A host that is only long. -/
def crowd (k : Nat) : Site where
  host := List.replicate (k + 1) 'h'
  port := none
  isHost := .name (by simp) fun _ member => (plain_letters member).2.1
  isPort := nofun
  isAuthority := by
    rw [portTail, List.append_nil]
    exact isAuthority_plain (by simp) (fun _ member => (plain_letters member).1)
      fun _ member => (plain_letters member).2.2.1

theorem authority_crowd (k : Nat) :
    (crowd k).authority = String.ofList (List.replicate (k + 1) 'h') := by
  rw [Site.authority, crowd, portTail, List.append_nil]

private theorem size_crowd (k : Nat) : (crowd k).authority.utf8ByteSize = k + 1 := by
  rw [authority_crowd]
  induction k with
  | zero => rfl
  | succ k ih =>
    rw [List.replicate_succ, String.ofList_cons, String.utf8ByteSize_append, ih]
    exact Nat.add_comm 1 (k + 1)

private theorem schemeless_letters (k : Nat) :
    takeScheme (List.replicate (k + 1) 'h') = .ok none := by
  have lower : (List.replicate (k + 1) 'h').map Char.toLower = List.replicate (k + 1) 'h' :=
    List.map_replicate
  have apart (rest : List Char) :
      dropPrefix? ('h' :: 't' :: rest) (List.replicate (k + 1) 'h') = none := by
    cases k <;> rfl
  have http : dropPrefix? "http://".toList (List.replicate (k + 1) 'h') = none :=
    apart ['t', 'p', ':', '/', '/']
  have https : dropPrefix? "https://".toList (List.replicate (k + 1) 'h') = none :=
    apart ['t', 'p', 's', ':', '/', '/']
  have all : (List.replicate (k + 1) 'h').takeWhile isSchemeChar = List.replicate (k + 1) 'h' :=
    takeWhile_whole fun _ member => (plain_letters member).2.2.2
  simp only [takeScheme, lower, http, https, all, List.drop_length]
  rfl

/-- Such a host is one that a tunnel can be asked for, unless it is too long in itself. -/
theorem parse_crowd {k : Nat} (short : k < Uri.maxLength) :
    Uri.parse? (crowd k).authority = some { authority := (crowd k).authority } := by
  have chars : (crowd k).authority.toList = List.replicate (k + 1) 'h' := by
    rw [authority_crowd, String.toList_ofList]
  have taken : takeAuthority (crowd k).authority.toList = some ((crowd k).authority.toList, []) := by
    have whole : takeAuthority ((crowd k).authority.toList ++ []) = _ :=
      takeAuthority_append (crowd k).named nofun
    rwa [List.append_nil] at whole
  have fits : ¬ (crowd k).authority.utf8ByteSize > Uri.maxLength := by
    rw [size_crowd]
    omega
  have scheme := schemeless_letters k
  rw [chars] at taken
  simp only [Uri.parse?, if_neg fits, chars]
  rw [List.replicate_succ] at taken scheme ⊢
  simp only [scheme, taken]
  rfl

def crowdHeader (k : Nat) : Bytes :=
  .ofOctets (List.replicate (k + 1) 104)

theorem root_crowd (policy : Policy) (k : Nat) :
    RootRequest policy (crowd k) (rootOf policy (crowdHeader k)) := by
  refine ⟨rfl, rfl, rfl, rfl, ?_⟩
  change valueText? (crowdHeader k) = some (crowd k).authority
  have octets : (crowdHeader k).octets = List.replicate (k + 1) 104 := rfl
  rw [valueText?, octets, List.map_replicate, authority_crowd, if_pos]
  · rfl
  · rw [List.all_replicate]
    rfl

/-- The URL of such a host may be too long where the host is not. -/
theorem unaddressed_crowd {g : Gateway} {k : Nat} (long : Uri.maxLength ≤ k + 9) :
    (rootOf g.policy (crowdHeader k)).handling.fullUrl? (rootOf g.policy (crowdHeader k)).message =
      none := by
  rw [root_url (root_crowd g.policy k), if_neg]
  have brief : ((crowd k).brief true).authority = (crowd k).authority := brief_other nofun
  have size : (fullText .https (crowd k).authority "/").utf8ByteSize = k + 10 := by
    rw [fullText, String.utf8ByteSize_append, String.utf8ByteSize_append, size_crowd]
    change 8 + (k + 1) + 1 = k + 10
    omega
  rw [brief, size]
  omega

/-- A tunnel to a site is refused, and a request for its root is not blocked. -/
structure Parted (g : Gateway) (s : Site) (n : Option Nat) (connect : Request)
    (p : Passage Request) (b : Block) : Prop where
  plain : Plain s n
  asked : Uri.parse? s.authority = some connect.uri
  tunnel : SealedTunnel g s connect
  root : RootRequest g.policy s p
  refused : ∀ t, g.tunnelTo t connect = (g, .answer (Handling.refusal b))
  unblocked : ∀ now i, (Stage.passRequest now (Stage.standard i) p).1.handling.block = none

private theorem parted {connect : Request} {b : Block} (plain : Plain s n)
    (asked : Uri.parse? s.authority = some connect.uri) (tunnel : SealedTunnel g s connect)
    (root : RootRequest g.policy s p)
    (refused : s.destination.block? g.policy = some b)
    (passes : (p.handling.fullUrl? p.message).bind (g.policy.block? ·.text) = none) :
    Parted g s n connect p b := by
  refine ⟨plain, asked, tunnel, root, fun t => ?_, fun now i => ?_⟩
  · rw [tunnelTo_sealed tunnel, refused]
  · cases full : p.handling.fullUrl? p.message with
    | none => rw [StageLaws.passRequest_unaddressed now i full, root.fresh]
    | some u =>
      rw [full, Option.bind_some] at passes
      rw [(standard_ruled now i full).handling, block_ruling, begun, root.policy, passes, root.fresh,
        Option.none_or]

theorem crowd_parted {k : Nat} (short : k < Uri.maxLength) (long : Uri.maxLength ≤ k + 9) :
    Parted closed (crowd k) none
      { method := "CONNECT", uri := { authority := (crowd k).authority } }
      (rootOf closed.policy (crowdHeader k)) (.notWhitelisted 403) := by
  refine parted rfl (parse_crowd short) ⟨rfl, rfl⟩ (root_crowd _ k) rfl ?_
  rw [unaddressed_crowd long, Option.bind_none]

/-- A site with a number that is no port. -/
def vast : Site where
  host := ['h']
  port := some ['7', '0', '0', '0', '0']
  isHost := .name (List.cons_ne_nil _ _) (List.forall_mem_singleton.mpr rfl)
  isPort := by
    rintro digits ⟨⟩
    exact List.all_eq_true.mp rfl
  isAuthority := @isAuthority_of_parse "h:70000" { authority := "h:70000" } (by decide +kernel)
    (by decide +kernel)

/-- A proxy that refuses one URL. -/
def picky : Gateway :=
  { policy := Policy.made [.blacklist "https://h/" 403] }

/-- The checks part where a host is so long that its URL is not read, and where a number is no
port. -/
theorem checks_part :
    Parted closed (crowd 65529) none
      { method := "CONNECT", uri := { authority := (crowd 65529).authority } }
      (rootOf closed.policy (crowdHeader 65529)) (.notWhitelisted 403) ∧
    Parted picky vast (some 70000) { method := "CONNECT", uri := { authority := "h:70000" } }
      (rootOf picky.policy (Bytes.ofText "h:70000")) (.blacklisted 403) := by
  refine ⟨crowd_parted (by decide) (by decide), ?_⟩
  have plain : Plain vast (some 70000) := by
    unfold Plain
    decide +kernel
  exact parted plain (by decide +kernel) ⟨by decide +kernel, by decide +kernel⟩
    ⟨rfl, rfl, rfl, rfl, by decide +kernel⟩ (by decide +kernel) (by decide +kernel)

end Wirelog.TunnelChecks
