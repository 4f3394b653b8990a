import Wirelog.Policy.Basic
import Wirelog.Text.Base64
/-!
Changes of a policy. A change is checked as a whole before anything is changed, so a refused one
leaves the policy as it was; the status is looked at before the patterns.
-/
namespace Wirelog.Policy

/-- A change of a policy. -/
inductive Update where
  /-- Forbid URLs. -/
  | blacklist (pattern : String) (status : Nat)
  | clearBlacklist
  /-- Allow no URLs but these. -/
  | whitelist (patterns : List String) (status : Nat)
  | clearWhitelist
  /-- Replace parts of URLs. -/
  | substitute (pattern replacement : String)
  | clearSubstitutions
  /-- Let one host stand in for another. -/
  | remap (host target : String)
  | clearRemaps
  /-- Add a header to requests. -/
  | addHeader (name value : String)
  | clearHeaders
  /-- Add headers to some URLs only. -/
  | headerFilter (pattern : Option String)
  /-- Add credentials to requests for a domain. -/
  | authorize (domain user password : String)
  /-- Add none any more. -/
  | stopAuthorizing (domain : String)

/-- `validate_status`: whether a status may stand in a rule. -/
def checkStatus (status : Nat) : Except Refusal Unit :=
  if 100 ≤ status ∧ status ≤ 599 then .ok () else .error (.badStatus status)

/-- Whether a host name is blank. -/
def isBlankName (host : String) : Bool :=
  (Text.trim host).isEmpty

/-- The value of an authorization header for a user. -/
def basicCredentials (user password : String) : Bytes :=
  Bytes.ofText ("Basic " ++ Text.Base64.encode (Bytes.ofText (user ++ ":" ++ password)))

/-- The policy after a change. -/
def update (p : Policy) : Update → Except Refusal Policy
  | .blacklist pattern status => do
    checkStatus status
    let pattern ← UrlPattern.of pattern
    return { p with blacklist := p.blacklist ++ [(pattern, status)] }
  | .clearBlacklist => .ok { p with blacklist := [] }
  | .whitelist patterns status => do
    checkStatus status
    let patterns ← patterns.mapM UrlPattern.of
    return { p with whitelist := some (patterns, status) }
  | .clearWhitelist => .ok { p with whitelist := none }
  | .substitute pattern replacement => do
    let rule ← Substitution.of pattern replacement
    return { p with substitutions := p.substitutions ++ [rule] }
  | .clearSubstitutions => .ok { p with substitutions := [] }
  | .remap host target =>
    if isBlankName host || isBlankName target then
      .error (.badParameter "host" "host names must not be empty")
    else .ok { p with remaps := assign (Text.asciiLower host) target p.remaps }
  | .clearRemaps => .ok { p with remaps := [] }
  | .addHeader name value =>
    match Http.headerName? name with
    | none => .error (.badParameter "header name" "invalid HTTP header name")
    | some name =>
      let value := Bytes.ofText value
      if Http.isHeaderValue value then .ok { p with headers := assign name value p.headers }
      else .error (.badParameter "header value" "failed to parse header value")
  | .clearHeaders => .ok { p with headers := [] }
  | .headerFilter none => .ok { p with headerFilter := none }
  | .headerFilter (some pattern) => do
    let pattern ← UrlPattern.of pattern
    return { p with headerFilter := some pattern }
  | .authorize domain user password =>
    .ok { p with
      credentials := assign (Text.asciiLower domain) (basicCredentials user password)
        p.credentials }
  | .stopAuthorizing domain =>
    .ok { p with credentials := p.credentials.filter (·.1 != Text.asciiLower domain) }

/-- The policy after a change that may be refused. -/
def tryUpdate (p : Policy) (u : Update) : Policy :=
  match p.update u with
  | .ok p => p
  | .error _ => p

/-- Changes one after another; the first refusal ends them. -/
def updateAll (p : Policy) (us : List Update) : Except Refusal Policy :=
  us.foldlM update p

end Wirelog.Policy
