import Wirelog.Forward.Dispatch
import Wirelog.Proofs.HeaderLaws
import Wirelog.Proofs.PastedUrls
import Wirelog.Proofs.PolicyHistory
import Wirelog.Proofs.RuledRequests

/-! Requests that rules lead to other URLs. Rules make a text of a text, and all that is asked of
the result is whether it can be read as a request target. If it cannot, the request stays as it is.
If it can, it is the new URL, and the `host` header follows the authority in it. But a path, an
asterisk and a bare authority are targets, too, so rules may leave a request without a scheme or a
host. -/
namespace Wirelog.SubstitutedUrls
open Http Http.Uri AuthorityLaws FullUrls PastedUrls PolicyHistory RuledRequests HeaderLaws

/-! ## Full URLs among targets -/

/-- A full URL has a scheme, and the host that it names is not empty. -/
structure IsFull (u : Uri) : Prop where
  scheme : u.scheme.isSome = true
  host : ∃ host, u.host? = some host ∧ host ≠ ""

/-- A target that is no full URL: it lacks the scheme, or the host in front of its port. -/
inductive Stray (u : Uri) : Prop where
  | path (rooted : OriginForm u)
  | asterisk (star : u = asterisk)
  | bare (plain : u.scheme = none) (named : u.authority.isEmpty = false)
  | hostless (nobody : u.host? = some "")

variable {text : String} {u v : Uri}

/-- A scheme is read only with an authority behind it. -/
theorem named_of_scheme (read : parse? text = some u) (schemed : u.scheme.isSome = true) :
    u.authority.isEmpty = false := by
  cases (readsAs_of_parse read).1 with
  | asterisk => cases schemed
  | path => cases schemed
  | bare => cases schemed
  | full _ _ _ filled _ => simpa using filled

theorem isFull_iff (read : parse? text = some u) : IsFull u ↔ ¬ Stray u := by
  constructor
  · rintro ⟨schemed, host, named, filled⟩ stray
    cases stray with
    | path rooted => rw [rooted.scheme] at schemed; cases schemed
    | asterisk star => rw [star] at schemed; cases schemed
    | bare plain _ => rw [plain] at schemed; cases schemed
    | hostless nobody => exact filled (Option.some.inj (named.symm.trans nobody))
  · intro straight
    have schemed : u.scheme.isSome = true := by
      by_contra lost
      have plain : u.scheme = none := by simpa using lost
      rcases target_forms read plain with rooted | star | ⟨named, -⟩
      · exact straight (.path rooted)
      · exact straight (.asterisk star)
      · exact straight (.bare plain named)
    have host : u.host? = some (String.ofList (hostOf u.authority.toList)) := by
      rw [Uri.host?, named_of_scheme read schemed]
      rfl
    refine ⟨schemed, _, host, fun empty => straight (.hostless ?_)⟩
    rw [host, empty]

/-! ## What rules make of a URL -/

/-- The URL after rules: what they make of its text, if this is another text and reads as a target,
and otherwise the URL itself. -/
inductive Becomes (rules : List Substitution) (u : Uri) : Uri → Prop where
  | same (rewrites : Rewrites rules u.text u.text) : Becomes rules u u
  | unread {text : String} (rewrites : Rewrites rules u.text text)
      (unread : Uri.parse? text = none) : Becomes rules u u
  | other {text : String} {v : Uri} (rewrites : Rewrites rules u.text text)
      (differs : text ≠ u.text) (read : Uri.parse? text = some v) : Becomes rules u v

theorem becomes_ruled (policy : Policy) (u : Uri) :
    Becomes policy.substitutions u (ruledUri policy u) := by
  have made : Rewrites policy.substitutions u.text (policy.substituted u.text) :=
    (rewrites_iff ..).mpr rfl
  rw [ruledUri, Policy.substitute?]
  split
  · rename_i same
    rw [same] at made
    exact .same made
  · rename_i differs
    rw [Option.bind_some]
    cases read : Uri.parse? (policy.substituted u.text) with
    | none => exact .unread made read
    | some v => exact .other made differs read

/-- Rules make one text of a text. -/
theorem rewrites_unique {rules : List Substitution} {url a b : String}
    (first : Rewrites rules url a) (second : Rewrites rules url b) : a = b :=
  ((rewrites_iff ..).mp first).symm.trans ((rewrites_iff ..).mp second)

/-- Rules lead a URL astray if they make another target of it that is no full URL. -/
def LedAstray (rules : List Substitution) (u : Uri) : Prop :=
  ∃ text v, Rewrites rules u.text text ∧ text ≠ u.text ∧ Uri.parse? text = some v ∧ Stray v

theorem full_iff_straight {rules : List Substitution} (full : IsFull u)
    (becomes : Becomes rules u v) : IsFull v ↔ ¬ LedAstray rules u := by
  cases becomes with
  | same rewrites =>
    refine iff_of_true full ?_
    rintro ⟨text, v, other, differs, -⟩
    exact differs (rewrites_unique other rewrites)
  | unread rewrites unread =>
    refine iff_of_true full ?_
    rintro ⟨text, v, other, -, read, -⟩
    rw [rewrites_unique other rewrites, unread] at read
    cases read
  | other rewrites differs read =>
    rw [isFull_iff read, not_iff_not]
    constructor
    · intro stray
      exact ⟨_, _, rewrites, differs, read, stray⟩
    · rintro ⟨text, w, other, -, again, stray⟩
      rw [rewrites_unique other rewrites, read] at again
      cases again
      exact stray

/-! ## What becomes of the request -/

/-- A URL names another authority than the one before it, letter case aside. -/
def Moved (u v : Uri) : Prop :=
  v.authority.isEmpty = false ∧ Handling.sameAuthority v u = false

/-- What rules make of a request. -/
structure Led (rules : List Substitution) (r out : Request) : Prop where
  /-- The URL is the one that they make of it. -/
  url : Becomes rules r.uri out.uri
  /-- The `host` header is the authority of this URL alone if it is another one. -/
  moved : Moved r.uri out.uri →
    Overwrites "host" (Bytes.ofText out.uri.authority) r.headers out.headers
  /-- Otherwise all headers stay as they are. -/
  stayed : ¬ Moved r.uri out.uri → out.headers = r.headers
  /-- Nothing else is touched. -/
  rest : out.method = r.method ∧ out.version = r.version ∧ out.body = r.body

theorem led_redirect {rules : List Substitution} {r : Request}
    (becomes : Becomes rules r.uri u) : Led rules r (Handling.redirect r u) := by
  unfold Handling.redirect
  split
  · rename_i stays
    refine ⟨becomes, fun moved => ?_, fun _ => rfl, rfl, rfl, rfl⟩
    rw [Bool.or_eq_true] at stays
    rcases stays with unnamed | same
    · cases unnamed.symm.trans moved.1
    · cases same.symm.trans moved.2
  · rename_i moves
    refine ⟨becomes, fun _ => overwrites_insert .., fun stays => absurd ?_ stays, rfl, rfl, rfl⟩
    simpa [Moved] using moves

theorem led_substituted (h : Handling) (r : Request) :
    Led h.policy.substitutions r (h.substituted r) := by
  have becomes := becomes_ruled h.policy r.uri
  rw [Handling.substituted]
  rw [ruledUri] at becomes
  cases target : (h.policy.substitute? r.uri.text).bind Uri.parse? with
  | some v =>
    rw [target] at becomes
    exact led_redirect becomes
  | none =>
    rw [target] at becomes
    refine ⟨becomes, fun moved => ?_, fun _ => rfl, rfl, rfl, rfl⟩
    have same : Handling.sameAuthority r.uri r.uri = true := beq_self_eq_true _
    cases same.symm.trans moved.2

/-- A request that is not refused is led as the rules say. -/
theorem enforce_passed {h : Handling} {r : Request} (passed : (h.enforce r).2.2 = none) :
    h.policy.block? r.uri.text = none ∧ (h.enforce r).2.1 = h.substituted r := by
  cases blocked : h.policy.block? r.uri.text with
  | some b =>
    simp only [Handling.enforce, blocked] at passed
    cases passed
  | none =>
    simp only [Handling.enforce, blocked, true_and]
    cases h.standIn? (h.substituted r) <;> rfl

/-- What becomes of a request for a full URL that rules lead. -/
structure LedOn (rules : List Substitution) (r out : Request) : Prop where
  /-- It goes to the URL that they make, and its `host` header follows the authority. -/
  led : Led rules r out
  /-- If they make no target, it stays as it is. -/
  ignored : ∀ text, Rewrites rules r.uri.text text → Uri.parse? text = none → out = r
  /-- It has a full URL again just if they do not lead it astray. -/
  full : IsFull out.uri ↔ ¬ LedAstray rules r.uri

/-- Rules leave a request that they do not refuse with a full URL and with a `host` header in step,
unless they make of its URL a target that is none. -/
theorem requests_led_by_rules (now : Time.Instant) (p : Passage Request)
    (full : IsFull p.message.uri) (passed : (Stage.enforcement.onRequest now p).2 = none) :
    LedOn p.handling.policy.substitutions p.message
      (Stage.enforcement.onRequest now p).1.message := by
  obtain ⟨-, result⟩ := enforce_passed (h := p.handling) (r := p.message) passed
  have message : (Stage.enforcement.onRequest now p).1.message =
      p.handling.substituted p.message := result
  rw [message]
  have led := led_substituted p.handling p.message
  refine ⟨led, ?ignored, full_iff_straight full led.url⟩
  case ignored =>
    intro text rewrites unread
    have made : p.handling.policy.substituted p.message.uri.text = text :=
      (rewrites_iff ..).mp rewrites
    have nothing : (p.handling.policy.substitute? p.message.uri.text).bind Uri.parse? = none := by
      rw [Policy.substitute?, made]
      split
      · rfl
      · exact unread
    rw [Handling.substituted, nothing]

/-- A request for a path of a host, under one rule. -/
def ruledBy (pattern replacement : String) : Passage Request where
  recorder := {}
  handling := { policy := Policy.made [.substitute pattern replacement] }
  message :=
    { uri := ⟨some .http, "h", ⟨"/p", none⟩⟩, headers := .ofList [("host", Bytes.ofText "h")] }

theorem ruledBy_full (pattern replacement : String) :
    IsFull (ruledBy pattern replacement).message.uri := by
  have host : (⟨some .http, "h", ⟨"/p", none⟩⟩ : Uri).host? = some "h" := by decide +kernel
  exact ⟨rfl, "h", host, by decide⟩

/-- A rule for another host leads the request and its `host` header there. -/
theorem led_to_another_host :
    let p := ruledBy "http://h(/.*)" "http://b:81$1"
    let way := Stage.enforcement.onRequest .epoch p
    IsFull p.message.uri ∧ way.2 = none ∧
      LedOn p.handling.policy.substitutions p.message way.1.message ∧
      way.1.message.uri = ⟨some .http, "b:81", ⟨"/p", none⟩⟩ ∧
      way.1.message.headers.getAll "host" = [Bytes.ofText "b:81"] := by
  have full := ruledBy_full "http://h(/.*)" "http://b:81$1"
  have passed : (Stage.enforcement.onRequest .epoch (ruledBy "http://h(/.*)" "http://b:81$1")).2 =
      none := by decide +kernel
  have url : (Stage.enforcement.onRequest .epoch
      (ruledBy "http://h(/.*)" "http://b:81$1")).1.message.uri =
        ⟨some .http, "b:81", ⟨"/p", none⟩⟩ := by decide +kernel
  have ledOn := requests_led_by_rules .epoch _ full passed
  refine ⟨full, passed, ledOn, url, ?_⟩
  have moved := ledOn.led.moved
  rw [url] at moved
  exact (moved ⟨by decide +kernel, by decide +kernel⟩).own

/-- A rule that keeps the path alone leaves the request without a scheme and without a host; nobody
can send it on any more. -/
theorem path_loses_host :
    let p := ruledBy "http://h(/.*)" "$1"
    let way := Stage.enforcement.onRequest .epoch p
    IsFull p.message.uri ∧ way.2 = none ∧ way.1.message.uri = { target := ⟨"/p", none⟩ } ∧
      ¬ IsFull way.1.message.uri ∧
      Forward.Route.of way.1.handling way.1.message.uri =
        .error (.protocol "no host in '/p'") := by
  have url : (Stage.enforcement.onRequest .epoch (ruledBy "http://h(/.*)" "$1")).1.message.uri =
      { target := ⟨"/p", none⟩ } := by decide +kernel
  refine ⟨ruledBy_full _ _, by decide +kernel, url, fun full => ?_, by decide +kernel⟩
  rw [url] at full
  cases full.scheme

end Wirelog.SubstitutedUrls
