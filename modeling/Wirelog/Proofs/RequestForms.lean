import Wirelog.Proofs.FullUrls
import Wirelog.Proofs.PolicyHistory
import Wirelog.Proofs.RuledRequests

/-! One request in two forms: with a full URL for a target, or with a path and a `host` header. A
full URL stays as it is written, and one that is put together does not name a port that goes without
saying. Where no such port is written, both forms come to one URL, so nothing that goes by the URL
can tell them apart. Where it is, they come to two URLs, and a rule that knows one of them misses
the other. -/
namespace Wirelog.RequestForms
open Http AuthorityLaws FullUrls RuledRequests

/-- Two requests for a path of a site, one in each form. -/
structure BothForms (h : Handling) (s : Site) (path : String) (absolute origin : Request) :
    Prop where
  rooted : path.toList.head? = some '/'
  whole : Uri.parse? (fullText h.scheme s.authority path) = some absolute.uri
  short : Uri.parse? path = some origin.uri
  meant : origin.headers.text? "host" = some s.authority

/-! ## The two URLs -/

variable {h : Handling} {s : Site} {path : String} {absolute origin : Request}

theorem absolute_url (forms : BothForms h s path absolute origin) :
    absolute.uri = ⟨some h.scheme, s.authority, origin.uri.target⟩ := by
  obtain ⟨-, read⟩ := originForm_of_parse forms.rooted forms.short
  have parsed := forms.whole
  rw [parse_full (scheme_web h) s.named forms.rooted, read] at parsed
  split at parsed
  · exact (Option.some.inj parsed).symm
  · cases parsed

private theorem size_brief (s : Site) (secure : Bool) :
    (s.brief secure).authority.utf8ByteSize ≤ s.authority.utf8ByteSize := by
  by_cases named : s.port = some (defaultDigits secure)
  · refine size_of_part ?_
    rw [brief_default named, String.toList_ofList, s.toList_authority]
    exact (List.prefix_append _ _).isInfix
  · rw [brief_other named]

/-- What is put together is not longer than the full URL, so it is not too long either. -/
theorem origin_url (forms : BothForms h s path absolute origin) :
    h.fullUrl? origin =
      some ⟨some h.scheme, (s.brief h.secure).authority, origin.uri.target⟩ := by
  obtain ⟨form, read⟩ := originForm_of_parse forms.rooted forms.short
  have meant : h.authorityFor origin = s.authority := by
    rw [Handling.authorityFor, forms.meant]
    rfl
  have fits := forms.whole
  rw [parse_full (scheme_web h) s.named forms.rooted] at fits
  split at fits
  · rename_i short
    rw [fullUrl_site form meant, if_pos]
    have target := size_of_part (raw_leads read).isInfix
    have authority := size_brief s h.secure
    simp only [fullText, String.utf8ByteSize_append] at short ⊢
    omega
  · cases fits

/-! ## What becomes of both -/

/-- Requests that come to the same, as far as rules and records go. -/
structure Alike (now : Time.Instant) (p q : Passage Request) : Prop where
  /-- Before the interceptors, both have the same URL, handling and answer. -/
  early :
    let a := Stage.passRequest now early p
    let b := Stage.passRequest now early q
    a.1.message.uri = b.1.message.uri ∧ a.1.handling = b.1.handling ∧ a.2 = b.2
  /-- Whatever the interceptors are, both have the same handling behind them, and are recorded under
  the same URL. -/
  standard : ∀ i,
    let a := Stage.passRequest now (Stage.standard i) p
    let b := Stage.passRequest now (Stage.standard i) q
    a.1.handling = b.1.handling ∧ recordedUrl? a.1 = recordedUrl? b.1

theorem alike_of_url {recorder : Recording.Recorder} {h : Handling} {r t : Request} {u : Uri}
    (first : h.fullUrl? r = some u) (second : h.fullUrl? t = some u) (now : Time.Instant) :
    Alike now ⟨recorder, h, r⟩ ⟨recorder, h, t⟩ := by
  constructor
  case early =>
    obtain ⟨ruled, uri, answer⟩ := early_ruled (p := ⟨recorder, h, r⟩) now first
    obtain ⟨ruled', uri', answer'⟩ := early_ruled (p := ⟨recorder, h, t⟩) now second
    exact ⟨uri.trans uri'.symm, ruled.handling.trans ruled'.handling.symm,
      answer.trans answer'.symm⟩
  case standard =>
    intro i
    have ruled := standard_ruled (p := ⟨recorder, h, r⟩) now i first
    have ruled' := standard_ruled (p := ⟨recorder, h, t⟩) now i second
    exact ⟨ruled.handling.trans ruled'.handling.symm, ruled.recorded.trans ruled'.recorded.symm⟩

/-- What the two forms of a request come to. -/
structure Forms (h : Handling) (s : Site) (absolute origin : Request) : Prop where
  /-- A full URL stays as it is. -/
  whole : h.fullUrl? absolute = some ⟨some h.scheme, s.authority, origin.uri.target⟩
  /-- One that is put together does not name a port that goes without saying. -/
  short : h.fullUrl? origin =
    some ⟨some h.scheme, (s.brief h.secure).authority, origin.uri.target⟩
  /-- Where this port is not written, both requests have one URL, and come to the same. -/
  same : s.port ≠ some (defaultDigits h.secure) →
    h.fullUrl? origin = h.fullUrl? absolute ∧
      ∀ now recorder, Alike now ⟨recorder, h, absolute⟩ ⟨recorder, h, origin⟩
  /-- Where it is, rules and records see two URLs. -/
  apart : s.port = some (defaultDigits h.secure) →
    (h.fullUrl? origin).map Uri.text ≠ (h.fullUrl? absolute).map Uri.text

/-- Both forms of a request come to the same, unless they write a port that goes without saying. -/
theorem forms_of_requests (forms : BothForms h s path absolute origin) :
    Forms h s absolute origin := by
  have whole : h.fullUrl? absolute = some ⟨some h.scheme, s.authority, origin.uri.target⟩ := by
    rw [Handling.fullUrl?, absolute_url forms]
    rfl
  have short := origin_url forms
  obtain ⟨form, -⟩ := originForm_of_parse forms.rooted forms.short
  constructor
  case whole => exact whole
  case short => exact short
  case same =>
    intro other
    rw [brief_other other] at short
    exact ⟨short.trans whole.symm, fun now _ => alike_of_url whole short now⟩
  case apart =>
    intro named same
    rw [whole, short, Option.map_some, Option.map_some, text_full form.rooted,
      text_full form.rooted, Option.some.injEq] at same
    exact (brief_eq_iff s h.secure).mp (fullText_inj same) named

/-- A site with a port that has to be said. -/
def unusual : Site where
  host := ['a']
  port := some ['8', '0', '8', '0']
  isHost := .name (List.cons_ne_nil _ _) (List.forall_mem_singleton.mpr rfl)
  isPort := by
    rintro digits ⟨⟩
    exact List.all_eq_true.mp rfl
  isAuthority := @isAuthority_of_parse "a:8080" { authority := "a:8080" } (by decide +kernel)
    (by decide +kernel)

def wholeUnusual : Request :=
  { uri := ⟨some .http, "a:8080", ⟨"/p", some "q"⟩⟩ }

def shortUnusual : Request :=
  { uri := { target := ⟨"/p", some "q"⟩ }, headers := .ofList [("host", Bytes.ofText "a:8080")] }

theorem unusual_port_comes_to_the_same :
    BothForms {} unusual "/p?q" wholeUnusual shortUnusual ∧
      Forms {} unusual wholeUnusual shortUnusual := by
  have forms : BothForms {} unusual "/p?q" wholeUnusual shortUnusual :=
    ⟨by decide +kernel, by decide +kernel, by decide +kernel, by decide +kernel⟩
  exact ⟨forms, forms_of_requests forms⟩

/-- A rule that forbids a URL refuses the request with a path and lets the one with the full URL
through, if this writes the port. -/
theorem written_port_evades_rule :
    let h : Handling := { policy := Policy.made [.blacklist "http://h/p" 403] }
    let whole : Request := { uri := ⟨some .http, "h:80", ⟨"/p", none⟩⟩ }
    let short : Request :=
      { uri := { target := ⟨"/p", none⟩ }, headers := .ofList [("host", Bytes.ofText "h:80")] }
    Uri.parse? "http://h:80/p" = some whole.uri ∧ Uri.parse? "/p" = some short.uri ∧
      (h.fullUrl? whole).bind (h.policy.block? ·.text) = none ∧
      (h.fullUrl? short).bind (h.policy.block? ·.text) = some (.blacklisted 403) := by
  decide +kernel

end Wirelog.RequestForms
