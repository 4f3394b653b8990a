import Mathlib.Data.List.Induction
import Wirelog.Policy.Shelf
import Wirelog.Proofs.TableLaws

/-! What one change does to a policy. Whether a change is accepted is decided by the change alone,
before anything is touched, and each accepted one changes one table and leaves the others. All that
holds of policies that were made by changes comes from these cases. -/
namespace Wirelog.PolicyLaws
open Policy

/-! ## Which changes are accepted -/

/-- Whether a number may be the status of a rule. -/
def isRuleStatus (status : Nat) : Bool :=
  100 ≤ status && status ≤ 599

/-- Whether a text can be read as a pattern for whole URLs. -/
def isPattern (pattern : String) : Bool :=
  (UrlPattern.of pattern).isOk

/-- Whether a change is accepted. The policy that it changes has no say in this. -/
def acceptable : Update → Bool
  | .blacklist pattern status => isRuleStatus status && isPattern pattern
  | .whitelist patterns status => isRuleStatus status && patterns.all isPattern
  | .substitute pattern replacement => (Substitution.of pattern replacement).isOk
  | .remap host target => !isBlankName host && !isBlankName target
  | .addHeader name value => (Http.headerName? name).isSome && Http.isHeaderValue (.ofText value)
  | .headerFilter pattern => pattern.all isPattern
  | .clearBlacklist | .clearWhitelist | .clearSubstitutions | .clearRemaps | .clearHeaders
  | .authorize .. | .stopAuthorizing _ => true

/-- The changes among these that are accepted. -/
def accepted (changes : List Update) : List Update :=
  changes.filter acceptable

/-- What an accepted change makes of a policy. -/
inductive Changes (p : Policy) : Update → Policy → Prop where
  | blacklist {source : String} {status : Nat} {pattern : UrlPattern}
      (inRange : isRuleStatus status) (read : UrlPattern.of source = .ok pattern) :
      Changes p (.blacklist source status)
        { p with blacklist := p.blacklist ++ [(pattern, status)] }
  | clearBlacklist : Changes p .clearBlacklist { p with blacklist := [] }
  | whitelist {sources : List String} {status : Nat} {patterns : List UrlPattern}
      (inRange : isRuleStatus status) (read : sources.mapM UrlPattern.of = .ok patterns) :
      Changes p (.whitelist sources status) { p with whitelist := some (patterns, status) }
  | clearWhitelist : Changes p .clearWhitelist { p with whitelist := none }
  | substitute {source replacement : String} {rule : Substitution}
      (read : Substitution.of source replacement = .ok rule) :
      Changes p (.substitute source replacement)
        { p with substitutions := p.substitutions ++ [rule] }
  | clearSubstitutions : Changes p .clearSubstitutions { p with substitutions := [] }
  | remap {host target : String} (named : isBlankName host = false)
      (led : isBlankName target = false) :
      Changes p (.remap host target)
        { p with remaps := assign (Text.asciiLower host) target p.remaps }
  | clearRemaps : Changes p .clearRemaps { p with remaps := [] }
  | addHeader {name value key : String} (read : Http.headerName? name = some key)
      (legal : Http.isHeaderValue (.ofText value)) :
      Changes p (.addHeader name value)
        { p with headers := assign key (.ofText value) p.headers }
  | clearHeaders : Changes p .clearHeaders { p with headers := [] }
  | unfiltered : Changes p (.headerFilter none) { p with headerFilter := none }
  | filtered {source : String} {pattern : UrlPattern} (read : UrlPattern.of source = .ok pattern) :
      Changes p (.headerFilter (some source)) { p with headerFilter := some pattern }
  | authorize {domain user password : String} :
      Changes p (.authorize domain user password)
        { p with
          credentials :=
            assign (Text.asciiLower domain) (basicCredentials user password) p.credentials }
  | stopAuthorizing {domain : String} :
      Changes p (.stopAuthorizing domain)
        { p with credentials := p.credentials.filter (·.1 != Text.asciiLower domain) }

theorem ok_of_bind {ε α β : Type} {x : Except ε α} {f : α → Except ε β} {b : β}
    (ends : x >>= f = .ok b) : ∃ a, x = .ok a ∧ f a = .ok b := by
  cases x with
  | error e => cases ends
  | ok a => exact ⟨a, rfl, ends⟩

private theorem status_ok {status : Nat} {u : Unit} (checked : checkStatus status = .ok u) :
    isRuleStatus status := by
  simp only [checkStatus] at checked
  split at checked
  · simpa [isRuleStatus] using ‹_›
  · cases checked

/-- A change that goes through is one of the cases. -/
theorem changes_of_update {p q : Policy} {u : Update} (made : p.update u = .ok q) :
    Changes p u q := by
  cases u with
  | blacklist source status =>
    obtain ⟨_, checked, made⟩ := ok_of_bind made
    obtain ⟨pattern, read, ⟨⟩⟩ := ok_of_bind made
    exact .blacklist (status_ok checked) read
  | whitelist sources status =>
    obtain ⟨_, checked, made⟩ := ok_of_bind made
    obtain ⟨patterns, read, ⟨⟩⟩ := ok_of_bind made
    exact .whitelist (status_ok checked) read
  | substitute source replacement =>
    obtain ⟨rule, read, ⟨⟩⟩ := ok_of_bind made
    exact .substitute read
  | remap host target =>
    simp only [update] at made
    split at made
    · cases made
    · rename_i named
      cases made
      simp only [Bool.or_eq_true, not_or, Bool.not_eq_true] at named
      exact .remap named.1 named.2
  | addHeader name value =>
    simp only [update] at made
    split at made
    · cases made
    · split at made
      · cases made
        exact .addHeader ‹_› ‹_›
      · cases made
  | headerFilter pattern =>
    cases pattern with
    | none =>
      cases made
      exact .unfiltered
    | some source =>
      obtain ⟨pattern, read, ⟨⟩⟩ := ok_of_bind made
      exact .filtered read
  | clearBlacklist => cases made; exact .clearBlacklist
  | clearWhitelist => cases made; exact .clearWhitelist
  | clearSubstitutions => cases made; exact .clearSubstitutions
  | clearRemaps => cases made; exact .clearRemaps
  | clearHeaders => cases made; exact .clearHeaders
  | authorize domain user password => cases made; exact .authorize
  | stopAuthorizing domain => cases made; exact .stopAuthorizing

private theorem isOk_iff {ε α : Type} {x : Except ε α} : x.isOk ↔ ∃ a, x = .ok a := by
  cases x <;> simp [Except.isOk, Except.toBool]

/-- Patterns are read together just when each of them can be read. -/
theorem mapM_isOk (sources : List String) :
    (sources.mapM UrlPattern.of).isOk = sources.all isPattern := by
  induction sources with
  | nil => rfl
  | cons source rest ih =>
    rw [List.mapM_cons, List.all_cons, ← ih, isPattern]
    cases UrlPattern.of source with
    | error reason => rfl
    | ok pattern => cases rest.mapM UrlPattern.of <;> rfl

theorem acceptable_of_changes {p q : Policy} {u : Update} (changes : Changes p u q) :
    acceptable u := by
  cases changes with
  | blacklist inRange read => simp [acceptable, inRange, isPattern, isOk_iff.mpr ⟨_, read⟩]
  | whitelist inRange read =>
    simp [acceptable, inRange, ← mapM_isOk, isOk_iff.mpr ⟨_, read⟩, -List.all_eq_true]
  | substitute read => exact isOk_iff.mpr ⟨_, read⟩
  | remap named led => simp [acceptable, named, led]
  | addHeader read legal => simp [acceptable, read, legal]
  | filtered read => exact isOk_iff.mpr ⟨_, read⟩
  | _ => rfl

theorem update_of_acceptable (p : Policy) {u : Update} (fine : acceptable u) :
    ∃ q, p.update u = .ok q := by
  have checked {status : Nat} (inRange : isRuleStatus status) : checkStatus status = .ok () := by
    simpa [checkStatus, isRuleStatus] using inRange
  cases u with
  | blacklist source status =>
    simp only [acceptable, Bool.and_eq_true] at fine
    obtain ⟨pattern, read⟩ := isOk_iff.mp fine.2
    exact ⟨_, by simp only [update, checked fine.1, read]; rfl⟩
  | whitelist sources status =>
    simp only [acceptable, Bool.and_eq_true, ← mapM_isOk] at fine
    obtain ⟨patterns, read⟩ := isOk_iff.mp fine.2
    exact ⟨_, by simp only [update, checked fine.1, read]; rfl⟩
  | substitute source replacement =>
    obtain ⟨rule, read⟩ := isOk_iff.mp fine
    exact ⟨_, by simp only [update, read]; rfl⟩
  | remap host target =>
    simp only [acceptable, Bool.and_eq_true, Bool.not_eq_true'] at fine
    exact ⟨_, by simp only [update, fine, Bool.or_self, Bool.false_eq_true, ↓reduceIte]; rfl⟩
  | addHeader name value =>
    simp only [acceptable, Bool.and_eq_true] at fine
    obtain ⟨key, read⟩ := Option.isSome_iff_exists.mp fine.1
    exact ⟨_, by simp only [update, read, fine.2, ↓reduceIte]; rfl⟩
  | headerFilter pattern =>
    cases pattern with
    | none => exact ⟨_, rfl⟩
    | some source =>
      obtain ⟨pattern, read⟩ := isOk_iff.mp fine
      exact ⟨_, by simp only [update, read]; rfl⟩
  | _ => exact ⟨_, rfl⟩

/-- A change is accepted by every policy or by none, and an accepted one goes through. -/
theorem goes_through (p : Policy) (u : Update) : (∃ q, p.update u = .ok q) ↔ acceptable u :=
  ⟨fun ⟨_, made⟩ => acceptable_of_changes (changes_of_update made), update_of_acceptable p⟩

theorem tryUpdate_refused (p : Policy) {u : Update} (refused : acceptable u = false) :
    p.tryUpdate u = p := by
  simp only [tryUpdate]
  cases made : p.update u with
  | error reason => rfl
  | ok q => simp [(goes_through p u).mp ⟨q, made⟩] at refused

theorem changes_of_tryUpdate (p : Policy) {u : Update} (fine : acceptable u) :
    Changes p u (p.tryUpdate u) := by
  obtain ⟨q, made⟩ := update_of_acceptable p fine
  simp only [tryUpdate, made]
  exact changes_of_update made

/-! ## Policies made by changes -/

theorem made_concat (changes : List Update) (u : Update) :
    made (changes ++ [u]) = (made changes).tryUpdate u := by
  simp only [made, changed, List.foldl_append, List.foldl_cons, List.foldl_nil]

/-- What holds at the start, and after every change that is accepted, holds of the policy and the
accepted changes that made it. -/
theorem made_induction {motive : List Update → Policy → Prop} (start : motive [] {})
    (step : ∀ h p u q, Changes p u q → motive h p → motive (h ++ [u]) q) (changes : List Update) :
    motive (accepted changes) (made changes) := by
  induction changes using List.reverseRecOn with
  | nil => exact start
  | append_singleton earlier u ih =>
    rw [made_concat, accepted, List.filter_append]
    by_cases fine : acceptable u
    · rw [List.filter_cons_of_pos fine]
      exact step _ _ _ _ (changes_of_tryUpdate _ fine) ih
    · rw [List.filter_cons_of_neg fine, tryUpdate_refused _ (Bool.eq_false_iff.mpr fine),
        List.filter_nil, List.append_nil]
      exact ih

/-! ## Keys and values -/

variable {α : Type}

theorem lookup_drop (key name : String) (l : List (String × α)) :
    lookup name (l.filter (·.1 != key)) = if key = name then none else lookup name l := by
  simp only [lookup, bne, TableLaws.find_drop]
  split <;> rfl

theorem lookup_assign (key name : String) (value : α) (l : List (String × α)) :
    lookup name (assign key value l) = if key = name then some value else lookup name l := by
  simp only [lookup, assign, bne, TableLaws.find_put]
  split <;> rfl

end Wirelog.PolicyLaws
