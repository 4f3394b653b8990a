import Wirelog.Proofs.PolicyHistory
import Wirelog.Settings.Basic

/-! Settings whose tables are gone through in any order. Hosts and headers stand in tables by name,
and a table has no order of its own, but the policy is made by one change after another and the last
value of a name counts. Names that differ in letter case alone are two names to the settings and one
to the policy. So the policy that comes out is the same for all orders just where the entries of one
name say the same, and otherwise each of them is what some order comes to. -/
namespace Wirelog.TableOrder
open Policy PolicyLaws PolicyHistory

variable {α β γ : Type} {s t : Settings} {p q r : Policy} {u : Update} {us : List Update}

/-! ## What comes last -/

/-- The last thing that some entries have to say. -/
def latest (entry : β → Option α) (l : List β) : Option α :=
  (l.filterMap entry).getLast?

theorem foldl_or (entry : β → Option α) (l : List β) (before : Option α) :
    l.foldl (fun value x => (entry x).or value) before = (latest entry l).or before := by
  induction l generalizing before with
  | nil => rfl
  | cons x rest ih =>
    rw [List.foldl_cons, ih, ← Option.or_assoc]
    refine congrArg (Option.or · before) ?_
    cases said : entry x with
    | none => simp [latest, said]
    | some v =>
      rw [latest, latest, List.filterMap_cons_some said, List.getLast?_cons]
      cases (rest.filterMap entry).getLast? <;> rfl

/-- Any entry comes last in some order. -/
theorem perm_last {x : β} {l : List β} (member : x ∈ l) : ∃ rest, l.Perm (rest ++ [x]) := by
  obtain ⟨before, after, rfl⟩ := List.append_of_mem member
  exact ⟨before ++ after, List.perm_middle.trans (List.perm_append_singleton x _).symm⟩

/-- An answer that entries may come to: what one of them says, or what there was before if they say
nothing. -/
def Possible (entry : β → Option α) (l : List β) (before answer : Option α) : Prop :=
  (∃ x ∈ l, ∃ v, entry x = some v ∧ answer = some v) ∨
    (∀ x ∈ l, entry x = none) ∧ answer = before

/-- That entries which say anything say the same. -/
def Agreed (entry : β → Option α) (l : List β) : Prop :=
  ∀ x ∈ l, ∀ y ∈ l, ∀ v w, entry x = some v → entry y = some w → v = w

theorem possible_iff_order (entry : β → Option α) (l : List β) (before answer : Option α) :
    Possible entry l before answer ↔ ∃ l', l.Perm l' ∧ (latest entry l').or before = answer := by
  constructor
  · rintro (⟨x, member, v, said, rfl⟩ | ⟨silent, rfl⟩)
    · obtain ⟨rest, perm⟩ := perm_last member
      exact ⟨_, perm, by simp [latest, said]⟩
    · exact ⟨l, .refl l, by simp [latest, List.filterMap_eq_nil_iff.mpr silent]⟩
  · rintro ⟨l', perm, rfl⟩
    cases last : latest entry l' with
    | some v =>
      obtain ⟨x, member, said⟩ := List.mem_filterMap.mp (List.mem_of_getLast? last)
      exact .inl ⟨x, perm.mem_iff.mpr member, v, said, rfl⟩
    | none =>
      have silent := List.filterMap_eq_nil_iff.mp (List.getLast?_eq_none_iff.mp last)
      exact .inr ⟨fun x member => silent x (perm.mem_iff.mp member), rfl⟩

/-- One answer is possible just when the entries agree. -/
theorem agreed_iff (entry : β → Option α) (l : List β) (before : Option α) :
    Agreed entry l ↔
      ∀ a b, Possible entry l before a → Possible entry l before b → a = b := by
  constructor
  · rintro agreed a b (⟨x, member, v, said, rfl⟩ | ⟨silent, rfl⟩)
      (⟨y, member', w, said', rfl⟩ | ⟨silent', rfl⟩)
    · rw [agreed x member y member' v w said said']
    · cases said.symm.trans (silent' x member)
    · cases said'.symm.trans (silent y member')
    · rfl
  · intro one x member y member' v w said said'
    exact Option.some.inj
      (one _ _ (.inl ⟨x, member, v, said, rfl⟩) (.inl ⟨y, member', w, said', rfl⟩))

/-! ## Several changes -/

theorem updateAll_cons (p : Policy) (u : Update) (us : List Update) :
    p.updateAll (u :: us) = p.update u >>= fun p => p.updateAll us :=
  List.foldlM_cons

/-- Changes go through together just when each of them is acceptable. -/
theorem all_go_through (p : Policy) (us : List Update) :
    (∃ q, p.updateAll us = .ok q) ↔ ∀ u ∈ us, acceptable u := by
  induction us generalizing p with
  | nil => exact ⟨fun _ => nofun, fun _ => ⟨p, rfl⟩⟩
  | cons u us ih =>
    rw [List.forall_mem_cons, ← goes_through p]
    constructor
    · rintro ⟨q, run⟩
      obtain ⟨next, made, onward⟩ := ok_of_bind (updateAll_cons p u us ▸ run)
      exact ⟨⟨next, made⟩, (ih next).mp ⟨q, onward⟩⟩
    · rintro ⟨⟨next, made⟩, fine⟩
      obtain ⟨q, onward⟩ := (ih next).mpr fine
      exact ⟨q, by rw [updateAll_cons, made]; exact onward⟩

/-- What each change settles for itself is settled by going through the changes. -/
theorem fold_of_run (value : Policy → γ) (next : γ → Update → γ)
    (step : ∀ p u q, Changes p u q → value q = next (value p) u) (run : p.updateAll us = .ok q) :
    value q = us.foldl next (value p) := by
  induction us generalizing p with
  | nil =>
    cases run
    rfl
  | cons u us ih =>
    obtain ⟨mid, made, onward⟩ := ok_of_bind (updateAll_cons p u us ▸ run)
    rw [ih onward, step p u mid (changes_of_update made), List.foldl_cons]

/-- A policy without its hosts and headers. -/
def bare (p : Policy) : Policy :=
  { p with remaps := [], headers := [] }

/-- Whether a change is about a host or a header. -/
def fromTable : Update → Bool
  | .remap .. | .addHeader .. => true
  | _ => false

theorem bare_changes {p' q' : Policy} (alike : bare p = bare p') (changes : Changes p u q)
    (changes' : Changes p' u q') : bare q = bare q' := by
  cases changes <;> cases changes' <;> simp_all [bare]

theorem bare_fromTable (changes : Changes p u q) (skipped : fromTable u) : bare q = bare p := by
  cases changes with
  | remap | addHeader => rfl
  | _ => cases skipped

/-- Changes about hosts and headers do not matter to the rest. -/
theorem bare_run {p' : Policy} (alike : bare p = bare p') (run : p.updateAll us = .ok q) :
    ∃ q', p'.updateAll (us.filter (!fromTable ·)) = .ok q' ∧ bare q = bare q' := by
  induction us generalizing p p' with
  | nil =>
    cases run
    exact ⟨p', rfl, alike⟩
  | cons u us ih =>
    obtain ⟨mid, made, onward⟩ := ok_of_bind (updateAll_cons p u us ▸ run)
    have changes := changes_of_update made
    cases skipped : fromTable u with
    | true =>
      rw [List.filter_cons_of_neg (by simp [skipped])]
      exact ih ((bare_fromTable changes skipped).trans alike) onward
    | false =>
      obtain ⟨mid', made'⟩ := update_of_acceptable p' (acceptable_of_changes changes)
      rw [List.filter_cons_of_pos (by simp [skipped]), updateAll_cons, made']
      exact ih (bare_changes alike changes (changes_of_update made')) onward

/-! ## Rules -/

/-- What an entry of the table of hosts says of a host. -/
def standsIn (host : String) (entry : String × String) : Option String :=
  if Text.sameAscii entry.1 host then some entry.2 else none

/-- What an entry of the table of headers says of a header. -/
def fills (name : String) (entry : String × String) : Option Bytes :=
  if Http.headerName? entry.1 = some name then some (.ofText entry.2) else none

/-- The URLs whose requests get headers, when there is a restriction. -/
def restriction? (s : Settings) : Option UrlPattern :=
  s.rules.headerFilter.bind fun source => (UrlPattern.of source).toOption

/-- The stand-in of a host after a change. -/
def hostAfter (host : String) (value : Option String) (u : Update) : Option String :=
  if u matches .clearRemaps then none else (replaces host u).or value

/-- The value of a header after a change. -/
def headerAfter (name : String) (value : Option Bytes) : Update → Option Bytes
  | .addHeader source text => (fills name (source, text)).or value
  | .clearHeaders => none
  | _ => value

/-- The URLs whose requests get headers, after a change. -/
def filterAfter (filter : Option UrlPattern) : Update → Option UrlPattern
  | .headerFilter source? => source?.bind fun source => (UrlPattern.of source).toOption
  | _ => filter

private theorem elim_same (o : Option β) (value : γ) : o.elim value (fun _ => value) = value := by
  cases o <;> rfl

theorem header_changes (name : String) (changes : Changes p u q) :
    lookup name q.headers = headerAfter name (lookup name p.headers) u := by
  cases changes with
  | @addHeader source text key read legal =>
    simp only [headerAfter, lookup_assign, fills, read, Option.some.injEq]
    split <;> simp
  | _ => rfl

theorem filter_changes (changes : Changes p u q) :
    q.headerFilter = filterAfter p.headerFilter u := by
  cases changes with
  | filtered read => simp [filterAfter, read, Except.toOption]
  | _ => rfl

theorem remap_of_rules (run : s.withRules p = .ok q) (host : String) :
    q.remap? host = (latest (standsIn host) s.rules.hosts).or (p.remap? host) := by
  have settled := fold_of_run (·.remap? host) (hostAfter host) (remap_changes host) run
  rw [settled, ← foldl_or]
  simp [Settings.Rules.updates, List.foldl_append, List.foldl_map, hostAfter, replaces, standsIn,
    elim_same]

theorem header_of_rules (run : s.withRules p = .ok q) (name : String) :
    lookup name q.headers = (latest (fills name) s.rules.headers).or (lookup name p.headers) := by
  have settled := fold_of_run (lookup name ·.headers) (headerAfter name)
    (fun _ _ _ => header_changes name) run
  rw [settled, ← foldl_or]
  simp [Settings.Rules.updates, List.foldl_append, List.foldl_map, headerAfter, elim_same]

theorem filter_of_rules (run : s.withRules p = .ok q) : q.headerFilter = restriction? s := by
  have settled := fold_of_run Policy.headerFilter filterAfter (fun _ _ _ => filter_changes) run
  rw [settled]
  simp [Settings.Rules.updates, List.foldl_append, List.foldl_map, filterAfter, restriction?]

/-- Settings are accepted just when their limits, options and ports are, and each rule is
acceptable. -/
theorem check_iff (s : Settings) :
    s.check = .ok () ↔ (∃ limits, s.checkedLimits = .ok limits) ∧
      (∃ options, s.options = .ok options) ∧ s.checkPorts = .ok () ∧
      ∀ u ∈ s.rules.updates, acceptable u := by
  rw [← all_go_through {}]
  constructor
  · intro checked
    obtain ⟨limits, limited, checked⟩ := ok_of_bind checked
    obtain ⟨options, read, checked⟩ := ok_of_bind checked
    obtain ⟨⟨⟩, ordered, checked⟩ := ok_of_bind checked
    obtain ⟨q, made, -⟩ := ok_of_bind checked
    exact ⟨⟨limits, limited⟩, ⟨options, read⟩, ordered, q, made⟩
  · rintro ⟨⟨limits, limited⟩, ⟨options, read⟩, ordered, q, made⟩
    have made : s.withRules {} = .ok q := made
    simp only [Settings.check, limited, read, ordered, made]
    rfl

/-! ## Orders -/

/-- Settings that differ in the order of their hosts and headers at most. -/
structure Reordered (s t : Settings) : Prop where
  hosts : s.rules.hosts.Perm t.rules.hosts
  headers : s.rules.headers.Perm t.rules.headers
  rest : t = { s with
    rules := { s.rules with hosts := t.rules.hosts, headers := t.rules.headers } }

/-- That the rules make a policy of another one in some order of hosts and headers. -/
def Makes (s : Settings) (p q : Policy) : Prop :=
  ∃ t, Reordered s t ∧ t.withRules p = .ok q

theorem updates_reordered (order : Reordered s t) : s.rules.updates.Perm t.rules.updates := by
  obtain ⟨hosts, headers, rest⟩ := order
  rw [rest]
  refine .append (.append (.append (.append (.refl _) ?_) ?_) (.refl _)) (.refl _)
  · exact hosts.map _
  · exact headers.map _

theorem bare_updates_reordered (order : Reordered s t) :
    s.rules.updates.filter (!fromTable ·) = t.rules.updates.filter (!fromTable ·) := by
  rw [order.rest]
  simp [Settings.Rules.updates, List.filter_map, Function.comp_def, fromTable]

theorem check_reordered (order : Reordered s t) (accepted : s.check = .ok ()) :
    t.check = .ok () := by
  obtain ⟨limited, read, ordered, fine⟩ := (check_iff s).mp accepted
  refine (check_iff t).mpr ⟨?_, ?_, ?_, fun u member => ?_⟩
  · exact order.rest ▸ limited
  · exact order.rest ▸ read
  · exact order.rest ▸ ordered
  · exact fine u ((updates_reordered order).mem_iff.mpr member)

theorem rules_go_through (accepted : s.check = .ok ()) (p : Policy) : ∃ q, s.withRules p = .ok q :=
  (all_go_through p s.rules.updates).mpr ((check_iff s).mp accepted).2.2.2

/-- The order is nothing to the rest of a policy. -/
theorem bare_makes (makes : Makes s p q) (makes' : Makes s p r) : bare q = bare r := by
  obtain ⟨t, order, run⟩ := makes
  obtain ⟨t', order', run'⟩ := makes'
  obtain ⟨mid, rest, same⟩ := bare_run rfl run
  obtain ⟨mid', rest', same'⟩ := bare_run rfl run'
  rw [← bare_updates_reordered order] at rest
  rw [← bare_updates_reordered order', rest] at rest'
  cases rest'
  exact same.trans same'.symm

theorem remap_makes (accepted : s.check = .ok ()) (p : Policy) (host : String)
    (answer : Option String) :
    (∃ q, Makes s p q ∧ q.remap? host = answer) ↔
      Possible (standsIn host) s.rules.hosts (p.remap? host) answer := by
  rw [possible_iff_order]
  constructor
  · rintro ⟨q, ⟨t, order, run⟩, rfl⟩
    exact ⟨t.rules.hosts, order.hosts, (remap_of_rules run host).symm⟩
  · rintro ⟨hosts, perm, rfl⟩
    have order : Reordered s { s with rules := { s.rules with hosts } } := ⟨perm, .refl _, rfl⟩
    obtain ⟨q, run⟩ := rules_go_through (check_reordered order accepted) p
    exact ⟨q, ⟨_, order, run⟩, remap_of_rules run host⟩

theorem header_makes (accepted : s.check = .ok ()) (p : Policy) (name : String)
    (answer : Option Bytes) :
    (∃ q, Makes s p q ∧ lookup name q.headers = answer) ↔
      Possible (fills name) s.rules.headers (lookup name p.headers) answer := by
  rw [possible_iff_order]
  constructor
  · rintro ⟨q, ⟨t, order, run⟩, rfl⟩
    exact ⟨t.rules.headers, order.headers, (header_of_rules run name).symm⟩
  · rintro ⟨headers, perm, rfl⟩
    have order : Reordered s { s with rules := { s.rules with headers } } := ⟨.refl _, perm, rfl⟩
    obtain ⟨q, run⟩ := rules_go_through (check_reordered order accepted) p
    exact ⟨q, ⟨_, order, run⟩, header_of_rules run name⟩

theorem filter_makes (makes : Makes s p q) : q.headerFilter = restriction? s := by
  obtain ⟨t, order, run⟩ := makes
  rw [filter_of_rules run, order.rest]
  rfl

/-! ## What the same is in all orders -/

/-- That requests for a URL get headers. -/
def Reached (s : Settings) (url : String) : Prop :=
  ∀ pattern, restriction? s = some pattern → pattern.isMatch url

/-- That the rules come to the same hosts and headers in all orders. -/
def OrderFree (s : Settings) (p : Policy) : Prop :=
  ∀ q r, Makes s p q → Makes s p r → (∀ host, q.remap? host = r.remap? host) ∧
    ∀ url name, lookup name (q.addedHeaders url) = lookup name (r.addedHeaders url)

/-- What the rules make of a policy in the orders of hosts and headers. -/
structure Orders (s : Settings) (p : Policy) : Prop where
  /-- In every order the settings are accepted and the rules go through. -/
  accepted : ∀ t, Reordered s t → t.check = .ok () ∧ ∃ q, t.withRules p = .ok q
  /-- The order is nothing to the rest of the policy. -/
  rest : ∀ q r, Makes s p q → Makes s p r → bare q = bare r
  /-- A host gets what one of its entries says, and any of them in some order. -/
  hosts : ∀ host answer, (∃ q, Makes s p q ∧ q.remap? host = answer) ↔
    Possible (standsIn host) s.rules.hosts (p.remap? host) answer
  /-- So does a header of a request that gets headers. -/
  headers : ∀ url, Reached s url → ∀ name answer,
    (∃ q, Makes s p q ∧ lookup name (q.addedHeaders url) = answer) ↔
      Possible (fills name) s.rules.headers (lookup name p.headers) answer
  /-- Other requests get none. -/
  withheld : ∀ url, ¬ Reached s url → ∀ q, Makes s p q → q.addedHeaders url = []
  /-- So the order does not matter just where the entries of each name agree. -/
  same : OrderFree s p ↔ (∀ host, Agreed (standsIn host) s.rules.hosts) ∧
    ∀ url, Reached s url → ∀ name, Agreed (fills name) s.rules.headers

theorem added_reached {url : String} (makes : Makes s p q) (reached : Reached s url) :
    q.addedHeaders url = q.headers := by
  rw [addedHeaders, filter_makes makes]
  split
  · rename_i pattern restricted
    rw [if_pos (reached pattern restricted)]
  · rfl

theorem added_withheld {url : String} (makes : Makes s p q) (missed : ¬ Reached s url) :
    q.addedHeaders url = [] := by
  rw [addedHeaders, filter_makes makes]
  simp only [Reached, not_forall] at missed
  obtain ⟨pattern, restricted, missed⟩ := missed
  simp only [restricted, missed, Bool.false_eq_true, ↓reduceIte]

/-- Rules of accepted settings come to the same in all orders of hosts and headers where the entries
of one name agree, letter case aside, and else to what any of these says. -/
theorem orders_come_to_entries (s : Settings) (p : Policy) (accepted : s.check = .ok ()) :
    Orders s p := by
  have hosts (host : String) (answer : Option String) := remap_makes accepted p host answer
  have headers (url : String) (reached : Reached s url) (name : String) (answer : Option Bytes) :
      (∃ q, Makes s p q ∧ lookup name (q.addedHeaders url) = answer) ↔
        Possible (fills name) s.rules.headers (lookup name p.headers) answer := by
    rw [← header_makes accepted]
    refine exists_congr fun q => and_congr_right fun makes => ?_
    rw [added_reached makes reached]
  constructor
  case accepted =>
    intro t order
    have fine := check_reordered order accepted
    exact ⟨fine, rules_go_through fine p⟩
  case rest => exact fun _ _ => bare_makes
  case hosts => exact hosts
  case headers => exact headers
  case withheld => exact fun _ missed _ makes => added_withheld makes missed
  case same =>
    constructor
    · intro free
      refine ⟨fun host => ?_, fun url reached name => ?_⟩
      · refine (agreed_iff _ _ (p.remap? host)).mpr fun a b possible possible' => ?_
        obtain ⟨q, makes, rfl⟩ := (hosts host a).mpr possible
        obtain ⟨r, makes', rfl⟩ := (hosts host b).mpr possible'
        exact (free q r makes makes').1 host
      · refine (agreed_iff _ _ (lookup name p.headers)).mpr fun a b possible possible' => ?_
        obtain ⟨q, makes, rfl⟩ := (headers url reached name a).mpr possible
        obtain ⟨r, makes', rfl⟩ := (headers url reached name b).mpr possible'
        exact (free q r makes makes').2 url name
    · rintro ⟨named, filled⟩ q r makes makes'
      refine ⟨fun host => ?_, fun url name => ?_⟩
      · exact (agreed_iff _ _ (p.remap? host)).mp (named host) _ _
          ((hosts host _).mp ⟨q, makes, rfl⟩) ((hosts host _).mp ⟨r, makes', rfl⟩)
      · by_cases reached : Reached s url
        · exact (agreed_iff _ _ (lookup name p.headers)).mp (filled url reached name) _ _
            ((headers url reached name _).mp ⟨q, makes, rfl⟩)
            ((headers url reached name _).mp ⟨r, makes', rfl⟩)
        · rw [added_withheld makes reached, added_withheld makes' reached]

/-- Two names of one header that agree, and two of one host that do not. -/
theorem orders_of_folded_names :
    let s : Settings := { rules := {
      hosts := [("A.test", "x"), ("a.test", "y")], headers := [("X-A", "1"), ("x-a", "1")] } }
    s.check = .ok () ∧ Orders s {} := by
  intro s
  have accepted : s.check = .ok () := by rfl
  exact ⟨accepted, orders_come_to_entries s {} accepted⟩

/-- Settings can be accepted and lead a host to two others. -/
theorem order_decides_stand_in :
    let s : Settings := { rules := { hosts := [("A.test", "x"), ("a.test", "y")] } }
    s.check = .ok () ∧ (s.rules.hosts.map Prod.fst).Nodup ∧ ¬ OrderFree s {} := by
  intro s
  refine ⟨by rfl, by decide, fun free => ?_⟩
  let t : Settings := { rules := { hosts := [("a.test", "y"), ("A.test", "x")] } }
  have order : Reordered s t := ⟨.swap _ _ _, .refl _, rfl⟩
  have same := (free { remaps := [("a.test", "y")] } { remaps := [("a.test", "x")] }
    ⟨s, ⟨.refl _, .refl _, rfl⟩, rfl⟩ ⟨t, order, rfl⟩).1 "a.test"
  exact absurd same (by decide)

end Wirelog.TableOrder
