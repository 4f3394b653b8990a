import Wirelog.Forward.Target
import Wirelog.Proofs.FullUrls

/-! Targets of full URLs that are sent on. A server is sent the path and the query, which are
written as one text and read again, and this text is a target only if it has a path: a URL may have
a query right behind its host, and such a URL is not sent on. Another proxy is sent a full URL
again, which takes path and query over as they are. -/
namespace Wirelog.ForwardedTargets
open Text Http Http.Uri DigitRows AuthorityLaws FullUrls Forward

/-- A URL of the web. -/
def IsWeb (u : Uri) : Prop :=
  u.scheme = some .http ∨ u.scheme = some .https

/-- Path and query as they are written: an empty path is the root. -/
def written (p : PathQuery) : PathQuery :=
  ⟨p.pathText, p.query⟩

/-! ## Path and query of a URL -/

/-- Path and query of a URL that was read: both are legible, and the path is empty or begins at the
root. -/
structure Behind (p : PathQuery) : Prop where
  legible : Legible p
  rooted : p.path = "" ∨ p.path.toList.head? = some '/'

theorem behind_of_read {tail : List Char} {p : PathQuery}
    (ends : Stops (fun c => !endsAuthority c) tail) (read : readPathQuery tail = some p) :
    Behind p := by
  refine ⟨legible_of_read read, ?_⟩
  have path := path_of_read read
  cases tail with
  | nil => exact .inl (String.toList_eq_nil_iff.mp path)
  | cons c rest =>
    have ended : endsAuthority c = true := by simpa using ends c rfl
    have mark : c = '/' ∨ c = '?' ∨ c = '#' := by simpa [endsAuthority, or_assoc] using ended
    rcases mark with rfl | rfl | rfl
    · refine .inr ?_
      rw [path]
      rfl
    · exact .inl (String.toList_eq_nil_iff.mp path)
    · exact .inl (String.toList_eq_nil_iff.mp path)

theorem suffix_of_scheme {s rest : List Char} {scheme : Scheme}
    (web : scheme = .http ∨ scheme = .https)
    (schemed : takeScheme s = .ok (some (scheme, rest))) : rest <:+ s := by
  simp only [takeScheme] at schemed
  split at schemed
  · cases schemed
    exact List.drop_suffix 7 s
  split at schemed
  · cases schemed
    exact List.drop_suffix 8 s
  · split at schemed
    · split at schemed
      · cases schemed
      · cases schemed
        rcases web with other | other <;> cases other
    · cases schemed

variable {text : String} {u : Uri}

/-- What is read of a URL of the web. -/
theorem behind_of_web (read : parse? text = some u) (web : IsWeb u) :
    Behind u.target ∧ u.target.raw.utf8ByteSize ≤ maxLength := by
  obtain ⟨reads, fits⟩ := readsAs_of_parse read
  cases reads with
  | asterisk => rcases web with other | other <;> cases other
  | path => rcases web with other | other <;> cases other
  | bare => rcases web with other | other <;> cases other
  | @full scheme rest part tail p _ schemed taken _ path =>
    refine ⟨behind_of_read (stops_of_take taken) path, Nat.le_trans (size_of_part ?_) fits⟩
    have scheme_web : scheme = .http ∨ scheme = .https := web.imp Option.some.inj Option.some.inj
    have tail_suffix : tail <:+ rest := append_of_take taken ▸ List.suffix_append part tail
    exact (raw_leads path).isInfix.trans
      (tail_suffix.trans (suffix_of_scheme scheme_web schemed)).isInfix

/-! ## Targets for servers -/

/-- A path from the root with a query is read back. -/
theorem parse_raw {p : PathQuery} (legible : Legible p) (rooted : p.path.toList.head? = some '/')
    (fits : p.raw.utf8ByteSize ≤ maxLength) : parse? p.raw = some { target := p } := by
  obtain ⟨rest, chars⟩ := List.head?_eq_some_iff.mp (path_of_rooted rooted).2.2
  have path := read_raw legible
  simp only [parse?, if_neg (Nat.not_lt.mpr fits), chars] at path ⊢
  rw [path]
  rfl

/-- A query without a path in front of it is no target. -/
theorem parse_query (q : String) : parse? ("?" ++ q) = none := by
  refine Option.eq_none_iff_forall_ne_some.mpr fun u read => ?_
  have chars : ("?" ++ q).toList = '?' :: q.toList := by simp
  have schemeless : takeScheme ('?' :: q.toList) = .ok none := by
    simp [takeScheme, dropPrefix?, isSchemeChar]
  cases (readsAs_of_parse read).1 with
  | asterisk star =>
    rw [chars] at star
    cases star
  | path rooted =>
    rw [chars] at rooted
    cases rooted
  | bare _ _ taken =>
    rw [chars] at taken
    cases taken
  | full _ schemed =>
    rw [chars, schemeless] at schemed
    cases schemed

theorem written_rooted {p : PathQuery} (rooted : p.path.toList.head? = some '/') :
    written p = p := by
  rw [written, (path_of_rooted rooted).1]

theorem written_behind {p : PathQuery} (behind : Behind p) :
    Legible (written p) ∧ (written p).path.toList.head? = some '/' := by
  rcases behind.rooted with empty | rooted
  · have root : (written p).path = "/" := by
      rw [written, PathQuery.pathText, empty]
      rfl
    rw [root]
    refine ⟨⟨?_, behind.legible.query⟩, rfl⟩
    rw [root]
    exact List.forall_mem_singleton.mpr ⟨rfl, rfl⟩
  · rw [written_rooted rooted]
    exact ⟨behind.legible, rooted⟩

/-- The text of path and query is what is written, if it does not begin with the query. -/
theorem text_behind {p : PathQuery} (behind : Behind p) (led : p.path = "" → p.query = none) :
    p.text = (written p).raw ∧ (written p).raw.utf8ByteSize ≤ max 1 p.raw.utf8ByteSize := by
  rcases behind.rooted with empty | rooted
  · rcases p with ⟨path, query⟩
    obtain rfl : path = "" := empty
    obtain rfl : query = none := led rfl
    exact ⟨rfl, Nat.le_max_left 1 _⟩
  · rw [written_rooted rooted]
    exact ⟨(path_of_rooted rooted).2.1, Nat.le_max_right 1 _⟩

theorem pathQueryText_web (web : IsWeb u) : u.pathQueryText = u.target.text := by
  have schemed : u.scheme.isSome = true := by
    rcases web with same | same <;> rw [same] <;> rfl
  have whole : u.pathQuery? = some u.target := by rw [pathQuery?, schemed]; rfl
  rw [pathQueryText, whole]

/-- A server is sent path and query, the root in place of an empty path. -/
theorem originForm_led (read : parse? text = some u) (web : IsWeb u)
    (led : u.target.path = "" → u.target.query = none) :
    originForm u = .ok { target := written u.target } := by
  obtain ⟨behind, fits⟩ := behind_of_web read web
  obtain ⟨legible, rooted⟩ := written_behind behind
  obtain ⟨same, size⟩ := text_behind behind led
  have short : (written u.target).raw.utf8ByteSize ≤ maxLength :=
    Nat.le_trans size (Nat.max_le.mpr ⟨by decide, fits⟩)
  rw [originForm, pathQueryText_web web, same, parse_raw legible rooted short]

/-- A query right behind the host is refused. -/
theorem originForm_query {q : String} (web : IsWeb u) (pathless : u.target.path = "")
    (query : u.target.query = some q) : originForm u =
      .error (.protocol
        ("bad request target '" ++ ("?" ++ q) ++ "': " ++ targetFault ("?" ++ q))) := by
  have same : u.target.text = "?" ++ q := by
    have raw : u.target.raw = "?" ++ q := by
      rw [PathQuery.raw, query, pathless]
      rfl
    rw [PathQuery.text, raw, if_neg]
    simp
  rw [originForm, pathQueryText_web web, same, parse_query]

theorem text_path {p : PathQuery} (rooted : p.path.toList.head? = some '/') :
    Uri.text { target := p } = p.raw := by
  obtain ⟨path, -, raw⟩ := path_of_rooted rooted
  have filled : p.raw.isEmpty = false := by
    refine Bool.eq_false_iff.mpr fun empty => ?_
    rw [String.isEmpty_iff.mp empty] at raw
    cases raw
  have shown : ({ target := p } : Uri).pathText = p.path := by
    simp only [pathText, filled, Bool.and_false, Bool.false_eq_true, ↓reduceIte, path]
  rw [Uri.text, shown, PathQuery.raw]
  cases p.query <;> simp [String.append_assoc]

/-! ## Targets for other proxies -/

section Proxy
variable {host : String} {port : Nat}

/-- A host and a port as a site, which does not name the default port. -/
def siteOf (host : String) (port : Nat) (isHost : IsHost host.toList)
    (isAuthority : IsAuthority host.toList) : Site where
  host := host.toList
  port := if port = 80 then none else some (Nat.toDigits 10 port)
  isHost := isHost
  isPort := by
    intro digits named
    split at named
    · cases named
    · cases named
      exact toDigits_isDigit port
  isAuthority := by
    split
    · rwa [portTail, List.append_nil]
    · exact isAuthority_port isHost (toDigits_isDigit port) isAuthority

variable (isHost : IsHost host.toList) (isAuthority : IsAuthority host.toList)
include isHost isAuthority

theorem authority_siteOf :
    (siteOf host port isHost isAuthority).authority = authorityText host port := by
  apply String.toList_injective
  rw [Site.toList_authority, siteOf, authorityText]
  split
  · exact List.append_nil _
  · simp [portTail, natText]

/-- A full URL that leads to a host and a port, with the path and the query of another one. -/
structure LeadsTo (host : String) (port : Nat) (u v : Uri) : Prop where
  scheme : v.scheme = some .http
  toHost : v.host? = some host
  toPort : port < UInt16.size → v.port? = if port = 80 then none else some port
  target : v.target = u.target
  text : v.text = fullText .http (authorityText host port) (written u.target).raw

/-- Another proxy is sent a full URL for the host. -/
theorem absoluteForm_host (web : IsWeb u) :
    ∃ v, absoluteForm u host port = .ok v ∧ LeadsTo host port u v := by
  have same := @authority_siteOf host port isHost isAuthority
  have named := (siteOf host port isHost isAuthority).named
  have filled := (siteOf host port isHost isAuthority).authority_filled
  have hostBack := hostOf_site (siteOf host port isHost isAuthority)
  have portBack := portOf_site (siteOf host port isHost isAuthority)
  rw [same] at named filled hostBack portBack
  have whole : u.pathQuery? = some u.target := by
    rcases web with schemed | schemed <;> (rw [pathQuery?, schemed]; rfl)
  have taken : authority? (authorityText host port) = some (authorityText host port) := by
    have read : takeAuthority ((authorityText host port).toList ++ []) = some (_, []) :=
      takeAuthority_append named stops_nil
    rw [List.append_nil] at read
    simp [authority?, read, named.filled]
  refine ⟨⟨some .http, authorityText host port, u.target⟩, ?_, rfl, ?toHost, ?toPort, rfl, ?text⟩
  · rw [absoluteForm, taken, whole]
    rfl
  case toHost =>
    rw [Uri.host?, filled, hostBack]
    exact congrArg some String.ofList_toList
  case toPort =>
    intro fits
    rw [Uri.port?, filled, if_neg Bool.false_ne_true, portBack, siteOf]
    by_cases usual : port = 80
    · simp only [usual, ↓reduceIte, Option.bind_none]
    · simp only [usual, ↓reduceIte, Option.bind_some, word_toDigits]
      exact if_pos fits
  case text =>
    rcases u with ⟨scheme, authority, path, query⟩
    cases query <;> simp [Uri.text, pathText, fullText, written, PathQuery.raw, String.append_assoc]

end Proxy

/-! ## Both -/

/-- What becomes of the target of a URL that is sent on. -/
structure SentOn (u : Uri) : Prop where
  /-- To a server goes what is written as path and query. -/
  server : (u.target.path = "" → u.target.query = none) →
    originForm u = .ok { target := written u.target } ∧
      ({ target := written u.target } : Uri).text = (written u.target).raw
  /-- But no query that has no path in front of it. -/
  refused : ∀ q, u.target.path = "" → u.target.query = some q → originForm u =
    .error (.protocol ("bad request target '" ++ ("?" ++ q) ++ "': " ++ targetFault ("?" ++ q)))
  /-- To another proxy goes a URL for the host that is connected to. -/
  proxy : ∀ host port, IsHost host.toList → IsAuthority host.toList →
    ∃ v, absoluteForm u host port = .ok v ∧ LeadsTo host port u v

/-- Path and query are sent on as they are written, unless a URL has a query and no path: this is
sent on to another proxy and to no server. -/
theorem targets_keep_path_and_query (read : parse? text = some u) (web : IsWeb u) : SentOn u where
  server := by
    intro led
    have rooted := (written_behind (behind_of_web read web).1).2
    refine ⟨originForm_led read web led, ?_⟩
    exact text_path rooted
  refused := fun _ pathless query => originForm_query web pathless query
  proxy := fun _ _ isHost isAuthority => absoluteForm_host isHost isAuthority web

theorem double_slash_is_kept :
    Uri.parse? "HTTPS://u@h:8443//p?q=/?#f" =
        some ⟨some .https, "u@h:8443", ⟨"//p", some "q=/?"⟩⟩ ∧
      originForm ⟨some .https, "u@h:8443", ⟨"//p", some "q=/?"⟩⟩ =
        .ok { target := ⟨"//p", some "q=/?"⟩ } ∧
      ∃ v, absoluteForm ⟨some .https, "u@h:8443", ⟨"//p", some "q=/?"⟩⟩ "[::1]" 8080 = .ok v ∧
        v.text = "http://[::1]:8080//p?q=/?" := by
  have read : Uri.parse? "HTTPS://u@h:8443//p?q=/?#f" =
      some ⟨some .https, "u@h:8443", ⟨"//p", some "q=/?"⟩⟩ := by decide +kernel
  have sent := targets_keep_path_and_query read (.inr rfl)
  have isHost : IsHost "[::1]".toList :=
    .bracketed (s := "::1".toList) (by simp)
  have isAuthority : IsAuthority "[::1]".toList :=
    @isAuthority_of_parse "[::1]" { authority := "[::1]" } (by decide +kernel) rfl
  obtain ⟨v, made, leads⟩ := sent.proxy "[::1]" 8080 isHost isAuthority
  exact ⟨read, (sent.server nofun).1, v, made, leads.text.trans (by decide +kernel)⟩

/-- A URL may have a query right behind its host. It is sent on to no server, though its path goes
without saying. -/
theorem query_behind_host_is_refused :
    ∃ u, Uri.parse? "http://h?x" = some u ∧ u.scheme = some .http ∧ u.host? = some "h" ∧
      written u.target = ⟨"/", some "x"⟩ ∧
      originForm u = .error (.protocol "bad request target '?x': invalid format") := by
  refine ⟨⟨some .http, "h", ⟨"", some "x"⟩⟩, by decide +kernel, rfl, by decide +kernel,
    by decide +kernel, ?_⟩
  have fault : "bad request target '" ++ ("?" ++ "x") ++ "': " ++ targetFault ("?" ++ "x") =
      "bad request target '?x': invalid format" := by decide +kernel
  rw [originForm_query (.inl rfl) rfl rfl, fault]

end Wirelog.ForwardedTargets
