import Wirelog.Http.Headers
import Wirelog.Pattern.Parser
import Wirelog.Pattern.Reach
import Wirelog.Pattern.Replace
import Wirelog.Refusal
/-!
What a proxy does to requests by their URLs: block them, change them, send them to another host,
and add headers and credentials. A policy is a value, so whoever holds one keeps getting the same
answers from it, whatever policy takes its place.
-/
namespace Wirelog

/-- A pattern that has to match a whole URL. -/
structure UrlPattern where
  /-- The pattern as given. -/
  source : String
  /-- The pattern between conditions for both ends of the text. -/
  node : Pattern.Node

namespace UrlPattern

/-- The text of a pattern that is held to both ends. -/
def anchored (source : String) : String :=
  "^(?:" ++ source ++ ")$"

/-- `UrlPattern::full_match`: reads a pattern. It is read in its place between the conditions, not
on its own. -/
def of (source : String) : Except Refusal UrlPattern :=
  match Pattern.parse? (anchored source) with
  | some parsed => .ok ⟨source, parsed.node⟩
  | none => .error (.badPattern source)

/-- `UrlPattern::matches`: whether a pattern matches a URL. -/
def isMatch (p : UrlPattern) (url : String) : Bool :=
  Pattern.occursIn p.node url.toList.toArray

end UrlPattern

/-- `RewriteRule`: a rule that replaces parts of URLs. -/
structure Substitution where
  /-- The pattern as given. -/
  source : String
  /-- The replacement as given. -/
  replacement : String
  /-- The pattern ready for searching. -/
  searcher : Pattern.Searcher

namespace Substitution

/-- `RewriteRule::new`: reads a rule. -/
def of (source replacement : String) : Except Refusal Substitution :=
  match Pattern.parse? source with
  | some parsed => .ok ⟨source, replacement, .of parsed⟩
  | none => .error (.badPattern source)

/-- A URL with all matches replaced. -/
def apply (r : Substitution) (url : String) : String :=
  Pattern.replaceAll r.searcher (Pattern.template r.replacement) url

end Substitution

/-- Why a request is refused. -/
inductive Block where
  /-- A forbidden URL. -/
  | blacklisted (status : Nat)
  /-- A URL that is not among the allowed ones. -/
  | notWhitelisted (status : Nat)
deriving DecidableEq

namespace Block

/-- `Block::status`: the status of the answer. -/
def status : Block → Nat
  | blacklisted s | notWhitelisted s => s

/-- `Block::reason`: the reason in words. -/
def reason : Block → String
  | blacklisted _ => "blacklisted"
  | notWhitelisted _ => "not whitelisted"

end Block

/-- `RuleSet`: a policy. -/
structure Policy where
  /-- Forbidden URLs with the statuses of their refusals, in order. -/
  blacklist : List (UrlPattern × Nat) := []
  /-- The allowed URLs with the status of other requests, when only some are allowed. -/
  whitelist : Option (List UrlPattern × Nat) := none
  /-- The rules that replace parts of URLs, in order. -/
  substitutions : List Substitution := []
  /-- Hosts in lower case with the hosts that stand in for them. -/
  remaps : List (String × String) := []
  /-- Headers that requests get, each name once. -/
  headers : List (String × Bytes) := []
  /-- The URLs whose requests get them; all, when there is none. -/
  headerFilter : Option UrlPattern := none
  /-- Credentials by domains in lower case. -/
  credentials : List (String × Bytes) := []

namespace Policy

instance : Inhabited Policy := ⟨{}⟩

/-- The value of a key. -/
def lookup {α : Type} (key : String) (l : List (String × α)) : Option α :=
  (l.find? (·.1 == key)).map Prod.snd

/-- Gives a key a value, in place of any that it has. -/
def assign {α : Type} (key : String) (value : α) (l : List (String × α)) : List (String × α) :=
  l.filter (·.1 != key) ++ [(key, value)]

/-- `RuleSet::check_blocked`: whether and why a request is refused. The first forbidden pattern that
matches decides, and the allowed ones count only when none does. -/
def block? (p : Policy) (url : String) : Option Block :=
  match p.blacklist.find? (·.1.isMatch url) with
  | some (_, status) => some (.blacklisted status)
  | none =>
    match p.whitelist with
    | some (patterns, status) =>
      if patterns.any (·.isMatch url) then none else some (.notWhitelisted status)
    | none => none

/-- A URL after all rules, each applied to what the one before left. -/
def substituted (p : Policy) (url : String) : String :=
  p.substitutions.foldl (fun url rule => rule.apply url) url

/-- `RuleSet::rewrite`: the URL after all rules, if it differs. -/
def substitute? (p : Policy) (url : String) : Option String :=
  if p.substituted url = url then none else some (p.substituted url)

/-- `RuleSet::remap_host`: the host that stands in for a host. -/
def remap? (p : Policy) (host : String) : Option String :=
  lookup (Text.asciiLower host) p.remaps

/-- `RuleSet::headers_for`: the headers that a request gets. -/
def addedHeaders (p : Policy) (url : String) : List (String × Bytes) :=
  match p.headerFilter with
  | some filter => if filter.isMatch url then p.headers else []
  | none => p.headers

/-- `RuleSet::basic_auth_for`: the credentials for a host, which is looked up as given. -/
def credentialsFor (p : Policy) (host : String) : Option Bytes :=
  lookup host p.credentials

end Policy
end Wirelog
