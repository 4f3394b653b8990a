import Wirelog.Handling.Basic
/-!
What a policy does to a request with a full URL. Everything here goes by the policy that was in
force when the handling began.
-/
namespace Wirelog
namespace Handling

/-- Whether two authorities are the same up to letter case. Absence is an authority of its own. -/
def sameAuthority (a b : Http.Uri) : Bool :=
  Text.sameAscii a.authority b.authority

/-- A request with another URL. When the URL names an authority and this differs from the old one,
the `host` header follows it. -/
def redirect (r : Http.Request) (uri : Http.Uri) : Http.Request :=
  if uri.authority.isEmpty || sameAuthority uri r.uri then { r with uri }
  else { r with uri, headers := r.headers.insert "host" (Bytes.ofText uri.authority) }

/-- A request after the rules that replace parts of URLs. A result that is no target is ignored. -/
def substituted (h : Handling) (r : Http.Request) : Http.Request :=
  match (h.policy.substitute? r.uri.text).bind Http.Uri.parse? with
  | some uri => redirect r uri
  | none => r

/-- The host that stands in for the one of a request. -/
def standIn? (h : Handling) (r : Http.Request) : Option String :=
  r.uri.host?.bind h.policy.remap?

/-- The answer to a refused request. -/
def refusal (b : Block) : Http.Response :=
  .synthetic b.status .empty

/-- Refuses a request, or changes its URL by the rules and looks up where to connect. -/
def enforce (h : Handling) (r : Http.Request) : Handling × Http.Request × Option Http.Response :=
  match h.policy.block? r.uri.text with
  | some b => ({ h with block := some b }, r, some (refusal b))
  | none =>
    let r := h.substituted r
    match h.standIn? r with
    | some target => ({ h with connectHost := some target }, r, none)
    | none => (h, r, none)

/-- A request with the headers that the policy adds to it. -/
def withHeaders (h : Handling) (r : Http.Request) : Http.Request :=
  { r with
    headers := (h.policy.addedHeaders r.uri.text).foldl
      (fun block (name, value) => block.insert name value) r.headers }

/-- A request with the credentials for its host. -/
def withCredentials (h : Handling) (r : Http.Request) : Http.Request :=
  match r.uri.host?.bind fun host => h.policy.credentialsFor (Text.asciiLower host) with
  | some value => { r with headers := r.headers.insert "authorization" value }
  | none => r

end Handling

namespace Stage

/-- `RuleEnforcement`: refuses requests, changes their URLs and finds stand-ins for their hosts. -/
def enforcement : Stage where
  name := "rule_enforcement"
  onRequest _ p :=
    match p.handling.enforce p.message with
    | (handling, message, answer) => ({ p with handling, message }, answer)

/-- `HeaderInjection`: adds headers. -/
def headers : Stage where
  name := "header_injection"
  onRequest _ p := ({ p with message := p.handling.withHeaders p.message }, none)

/-- `AutoAuthorization`: adds credentials. -/
def credentials : Stage where
  name := "auto_authorization"
  onRequest _ p := ({ p with message := p.handling.withCredentials p.message }, none)

end Stage
end Wirelog
