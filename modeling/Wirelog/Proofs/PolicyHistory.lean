import Mathlib.Data.List.DropRight
import Wirelog.Proofs.PolicyLaws

/-! What a policy answers, read off the calls that made it. Each answer depends on the calls of one
kind since the last one that cleared them: on all of these in their order, on the latest one, or on
the latest one for each name. A policy keeps tables instead and changes them in place, so the work
is to show that after every change the tables still are what the calls say. -/
namespace Wirelog.PolicyHistory
open Policy PolicyLaws

variable {α : Type}

/-! ## Calls since the last clearing -/

/-- What the calls since the last one that clears have to say, in their order. -/
def entriesSince (clears : Update → Bool) (entry : Update → Option α) (h : List Update) : List α :=
  (h.rtakeWhile fun u => !clears u).filterMap entry

/-- The latest of these. -/
def latestSince (clears : Update → Bool) (entry : Update → Option α) (h : List Update) : Option α :=
  (entriesSince clears entry h).getLast?

theorem entries_concat (clears : Update → Bool) (entry : Update → Option α) (h : List Update)
    (u : Update) :
    entriesSince clears entry (h ++ [u]) =
      if clears u then [] else entriesSince clears entry h ++ (entry u).toList := by
  cases cleared : clears u with
  | true => simp [entriesSince, cleared]
  | false => cases said : entry u <;> simp [entriesSince, cleared, said]

theorem latest_concat (clears : Update → Bool) (entry : Update → Option α) (h : List Update)
    (u : Update) :
    latestSince clears entry (h ++ [u]) =
      if clears u then none else (entry u).or (latestSince clears entry h) := by
  rw [latestSince, entries_concat]
  cases clears u with
  | true => rfl
  | false =>
    rw [if_neg Bool.false_ne_true, if_neg Bool.false_ne_true, List.getLast?_append]
    cases entry u <;> rfl

/-- Of each name the last pair, in the order of these. -/
def latestOfEach : List (String × α) → List (String × α)
  | [] => []
  | pair :: rest =>
    if rest.any (·.1 == pair.1) then latestOfEach rest else pair :: latestOfEach rest

theorem latestOfEach_concat (l : List (String × α)) (key : String) (value : α) :
    latestOfEach (l ++ [(key, value)]) = assign key value (latestOfEach l) := by
  induction l with
  | nil => rfl
  | cons pair rest ih =>
    have there : (rest ++ [(key, value)]).any (·.1 == pair.1) =
        (rest.any (·.1 == pair.1) || key == pair.1) := by
      rw [List.any_append, List.any_cons, List.any_nil, Bool.or_false]
    rw [List.cons_append, latestOfEach, latestOfEach, there, ih]
    -- A later pair of the same name may have hidden the first one before; else the new one may do.
    by_cases later : rest.any (·.1 == pair.1)
    · rw [if_pos later, later, Bool.true_or, if_pos rfl]
    · by_cases same : key = pair.1
      · simp [later, same, assign]
      · simp [later, same, Ne.symm same, assign]

example : latestOfEach [("a", 1), ("b", 2), ("a", 3)] = [("b", 2), ("a", 3)] := rfl

/-- A name that is given here was given before. -/
private theorem names_of_latest (l : List (String × α)) :
    (latestOfEach l).map Prod.fst ⊆ l.map Prod.fst := by
  induction l with
  | nil => exact List.Subset.refl _
  | cons pair rest ih =>
    rw [latestOfEach]
    split
    · exact List.Subset.trans ih (List.subset_cons_self _ _)
    · exact List.cons_subset_cons _ ih

theorem latest_names_distinct (l : List (String × α)) :
    ((latestOfEach l).map Prod.fst).Nodup := by
  induction l with
  | nil => exact List.nodup_nil
  | cons pair rest ih =>
    rw [latestOfEach]
    split
    · exact ih
    · rename_i last
      refine List.nodup_cons.mpr ⟨fun again => last ?_, ih⟩
      obtain ⟨other, member, same⟩ := List.mem_map.mp (names_of_latest rest again)
      exact List.any_eq_true.mpr ⟨other, member, beq_iff_eq.mpr same⟩

/-! ## What calls say -/

/-- The URLs that a call forbids. -/
def forbids : Update → Option (UrlPattern × Nat)
  | .blacklist source status => (UrlPattern.of source).toOption.map (·, status)
  | _ => none

/-- The only URLs that a call allows. -/
def allows : Update → Option (List UrlPattern × Nat)
  | .whitelist sources status => (sources.mapM UrlPattern.of).toOption.map (·, status)
  | _ => none

/-- The rule that a call adds. -/
def rewrites : Update → Option Substitution
  | .substitute source replacement => (Substitution.of source replacement).toOption
  | _ => none

/-- The host that a call puts in the place of a host, letter case aside. -/
def replaces (host : String) : Update → Option String
  | .remap other target => if Text.sameAscii other host then some target else none
  | _ => none

/-- The header that a call adds. -/
def adds : Update → Option (String × Bytes)
  | .addHeader name value => (Http.headerName? name).map (·, .ofText value)
  | _ => none

/-- The URLs that a call restricts headers to. -/
def restricts : Update → Option UrlPattern
  | .headerFilter (some source) => (UrlPattern.of source).toOption
  | _ => none

/-- The credentials that a call gives to a domain, which it may name in any letter case. -/
def grants (domain : String) : Update → Option Bytes
  | .authorize other user password =>
    if Text.asciiLower other = domain then some (basicCredentials user password) else none
  | _ => none

/-- Whether a call takes the credentials from a domain. -/
def stops (domain : String) : Update → Bool
  | .stopAuthorizing other => Text.asciiLower other == domain
  | _ => false

/-! ## What a history says -/

/-- The forbidden URLs with the statuses of their refusals. -/
def forbiddenUrls : List Update → List (UrlPattern × Nat) :=
  entriesSince (· matches .clearBlacklist) forbids

/-- The allowed URLs with the status of other requests, when only some are allowed. -/
def allowedUrls? : List Update → Option (List UrlPattern × Nat) :=
  latestSince (· matches .clearWhitelist) allows

/-- The rules that replace parts of URLs. -/
def rules : List Update → List Substitution :=
  entriesSince (· matches .clearSubstitutions) rewrites

/-- The host that stands in for a host. -/
def standIn? (host : String) : List Update → Option String :=
  latestSince (· matches .clearRemaps) (replaces host)

/-- The added headers, each name once with its latest value, in the order of these values. -/
def latestHeaders (h : List Update) : List (String × Bytes) :=
  latestOfEach (entriesSince (· matches .clearHeaders) adds h)

/-- The URLs whose requests get them, when there is a restriction. -/
def headerUrls? : List Update → Option UrlPattern :=
  latestSince (· matches .headerFilter none) restricts

/-- The credentials for a domain. -/
def credentials? (domain : String) : List Update → Option Bytes :=
  latestSince (stops domain) (grants domain)

/-! ## The tables agree with the history -/

/-- A list that each change clears or adds to holds what the calls said since it was cleared. -/
private theorem list_of_history (table : Policy → List α) {clears : Update → Bool}
    {entry : Update → Option α} (start : table {} = [])
    (step : ∀ p u q, Changes p u q →
      table q = if clears u then [] else table p ++ (entry u).toList) (changes : List Update) :
    table (made changes) = entriesSince clears entry (accepted changes) :=
  made_induction (motive := fun h p => table p = entriesSince clears entry h) start
    (fun h p u q changed same => by rw [step p u q changed, same, entries_concat]) changes

/-- A value that each change clears or replaces is the latest since it was cleared. -/
private theorem value_of_history (value : Policy → Option α) {clears : Update → Bool}
    {entry : Update → Option α} (start : value {} = none)
    (step : ∀ p u q, Changes p u q → value q = if clears u then none else (entry u).or (value p))
    (changes : List Update) :
    value (made changes) = latestSince clears entry (accepted changes) :=
  made_induction (motive := fun h p => value p = latestSince clears entry h) start
    (fun h p u q changed same => by rw [step p u q changed, same, latest_concat]) changes

theorem blacklist_made (changes : List Update) :
    (made changes).blacklist = forbiddenUrls (accepted changes) := by
  refine list_of_history Policy.blacklist rfl (fun p u q changed => ?_) changes
  cases changed with
  | blacklist inRange read => simp [forbids, read, Except.toOption]
  | clearBlacklist => rfl
  | _ => exact (List.append_nil _).symm

theorem whitelist_made (changes : List Update) :
    (made changes).whitelist = allowedUrls? (accepted changes) := by
  refine value_of_history Policy.whitelist rfl (fun p u q changed => ?_) changes
  cases changed with
  | whitelist inRange read => simp [allows, read, Except.toOption]
  | _ => rfl

theorem substitutions_made (changes : List Update) :
    (made changes).substitutions = rules (accepted changes) := by
  refine list_of_history Policy.substitutions rfl (fun p u q changed => ?_) changes
  cases changed with
  | substitute read => simp [rewrites, read, Except.toOption]
  | clearSubstitutions => rfl
  | _ => exact (List.append_nil _).symm

theorem headerFilter_made (changes : List Update) :
    (made changes).headerFilter = headerUrls? (accepted changes) := by
  refine value_of_history Policy.headerFilter rfl (fun p u q changed => ?_) changes
  cases changed with
  | filtered read => simp [restricts, read, Except.toOption]
  | _ => rfl

theorem remap_changes (host : String) (p : Policy) (u : Update) (q : Policy) : Changes p u q →
    q.remap? host =
      if u matches .clearRemaps then none else (replaces host u).or (p.remap? host) := by
  intro changed
  cases changed with
  | @remap other target named led =>
    simp only [remap?, lookup_assign, replaces, Text.sameAscii, beq_iff_eq]
    split <;> simp
  | _ => rfl

theorem remap_made (changes : List Update) (host : String) :
    (made changes).remap? host = standIn? host (accepted changes) :=
  value_of_history (·.remap? host) rfl (remap_changes host) changes

theorem credentials_made (changes : List Update) (domain : String) :
    (made changes).credentialsFor domain = credentials? domain (accepted changes) := by
  refine value_of_history (·.credentialsFor domain) rfl (fun p u q changed => ?_) changes
  cases changed with
  | @authorize other user password =>
    simp only [credentialsFor, lookup_assign, grants, stops]
    split <;> simp
  | @stopAuthorizing other =>
    simp only [credentialsFor, lookup_drop, grants, stops, beq_iff_eq]
    rfl
  | _ => rfl

theorem headers_made (changes : List Update) :
    (made changes).headers = latestHeaders (accepted changes) := by
  refine made_induction (motive := fun h p => p.headers = latestHeaders h) rfl
    (fun h p u q changed same => ?_) changes
  rw [latestHeaders, entries_concat]
  cases changed with
  | @addHeader name value key read legal =>
    simp only [adds, read, same, Bool.false_eq_true, ↓reduceIte, Option.map_some,
      Option.toList_some]
    exact (latestOfEach_concat _ _ _).symm
  | clearHeaders => rfl
  | _ => exact same.trans (congrArg latestOfEach (List.append_nil _).symm)

/-! ## Answers -/

/-- Why tables of forbidden and allowed URLs refuse a URL. The first forbidden one that matches
decides; the allowed ones count where none does. -/
inductive Refuses (forbidden : List (UrlPattern × Nat)) (allowed : Option (List UrlPattern × Nat))
    (url : String) : Block → Prop where
  | forbidden {earlier later : List (UrlPattern × Nat)} {pattern : UrlPattern} {status : Nat}
      (listed : forbidden = earlier ++ (pattern, status) :: later) (hit : pattern.isMatch url)
      (first : ∀ rule ∈ earlier, rule.1.isMatch url = false) :
      Refuses forbidden allowed url (.blacklisted status)
  | outside {patterns : List UrlPattern} {status : Nat}
      (unforbidden : ∀ rule ∈ forbidden, rule.1.isMatch url = false)
      (limited : allowed = some (patterns, status))
      (unlisted : ∀ pattern ∈ patterns, pattern.isMatch url = false) :
      Refuses forbidden allowed url (.notWhitelisted status)

/-- A policy refuses a URL for the reason that its tables give, and for no other. -/
theorem refuses_iff (p : Policy) (url : String) (b : Block) :
    Refuses p.blacklist p.whitelist url b ↔ p.block? url = some b := by
  constructor
  · intro refuses
    cases refuses with
    | @forbidden earlier later pattern status listed hit first =>
      have found : p.blacklist.find? (·.1.isMatch url) = some (pattern, status) := by
        rw [List.find?_eq_some_iff_append]
        exact ⟨hit, earlier, later, listed, fun rule member => by simp [first rule member]⟩
      simp only [block?, found]
    | @outside patterns status unforbidden limited unlisted =>
      have missed : p.blacklist.find? (·.1.isMatch url) = none := by
        simpa using unforbidden
      have unmatched : patterns.any (·.isMatch url) = false := by
        simpa using unlisted
      simp only [block?, missed, limited, unmatched, Bool.false_eq_true, ↓reduceIte]
  · intro refused
    simp only [block?] at refused
    split at refused
    · rename_i pattern status found
      obtain ⟨hit, earlier, later, listed, first⟩ := List.find?_eq_some_iff_append.mp found
      cases refused
      exact .forbidden listed hit fun rule member => by simpa using first rule member
    · rename_i missed
      split at refused
      · rename_i patterns status limited
        split at refused
        · cases refused
        · rename_i unmatched
          cases refused
          exact .outside (by simpa using missed) limited (by simpa using unmatched)
      · cases refused

/-- What rules make of a URL, each of what the one before left. -/
inductive Rewrites : List Substitution → String → String → Prop where
  | done {url : String} : Rewrites [] url url
  | next {rule : Substitution} {rest : List Substitution} {url result : String}
      (onward : Rewrites rest (rule.apply url) result) : Rewrites (rule :: rest) url result

theorem rewrites_iff (rules : List Substitution) (url result : String) :
    Rewrites rules url result ↔ rules.foldl (fun url rule => rule.apply url) url = result := by
  induction rules generalizing url with
  | nil =>
    constructor
    · rintro ⟨⟩
      rfl
    · rintro rfl
      exact .done
  | cons rule rest ih =>
    rw [List.foldl_cons, ← ih]
    constructor
    · intro rewrites
      cases rewrites with
      | next onward => exact onward
    · exact .next

/-- A policy answers what a history of accepted calls says. -/
structure Answers (h : List Update) (p : Policy) : Prop where
  /-- The forbidden URLs refuse first, then the allowed ones. -/
  refused : ∀ url b, Refuses (forbiddenUrls h) (allowedUrls? h) url b ↔ p.block? url = some b
  /-- A URL becomes another one if the rules make another one of it. -/
  rewritten : ∀ url result,
    p.substitute? url = some result ↔ Rewrites (rules h) url result ∧ result ≠ url
  /-- A host has its latest stand-in. -/
  redirected : ∀ host, p.remap? host = standIn? host h
  /-- Requests get the latest value of each header. -/
  added : ∀ url, (∀ pattern, headerUrls? h = some pattern → pattern.isMatch url) →
    p.addedHeaders url = latestHeaders h
  /-- Those outside the restriction get none. -/
  withheld : ∀ url pattern, headerUrls? h = some pattern → pattern.isMatch url = false →
    p.addedHeaders url = []
  /-- No header is added twice. -/
  distinct : ∀ url, ((p.addedHeaders url).map Prod.fst).Nodup
  /-- A domain has its latest credentials. -/
  authorized : ∀ domain, p.credentialsFor domain = credentials? domain h

/-- The policy that calls made answers what the accepted ones among them say. -/
theorem answers_made (changes : List Update) : Answers (accepted changes) (made changes) := by
  have filter := headerFilter_made changes
  constructor
  case refused =>
    intro url b
    rw [← blacklist_made, ← whitelist_made]
    exact refuses_iff _ url b
  case rewritten =>
    intro url result
    rw [← substitutions_made, rewrites_iff, substitute?]
    change _ ↔ (made changes).substituted url = result ∧ _
    split
    · rename_i same
      simp only [same, reduceCtorEq, ne_eq, false_iff, not_and, not_not]
      exact Eq.symm
    · rename_i other
      simp only [Option.some.injEq, ne_eq, iff_self_and]
      rintro rfl
      exact other
  case redirected => exact remap_made changes
  case added =>
    intro url matching
    rw [← filter] at matching
    rw [← headers_made, addedHeaders]
    split
    · rename_i pattern restricted
      rw [if_pos (matching pattern restricted)]
    · rfl
  case withheld =>
    intro url pattern restricted missed
    rw [← filter] at restricted
    simp only [addedHeaders, restricted, missed, Bool.false_eq_true, ↓reduceIte]
  case distinct =>
    intro url
    have all : ((made changes).headers.map Prod.fst).Nodup :=
      headers_made changes ▸ latest_names_distinct _
    rw [addedHeaders]
    split
    · split
      · exact all
      · exact List.nodup_nil
    · exact all
  case authorized => exact credentials_made changes

end Wirelog.PolicyHistory
