import Wirelog.Policy.Basic
import Wirelog.Proofs.PatternBounds
/-!
Patterns that have to match whole URLs. A pattern is put as text between the conditions for both
ends, and the whole is read anew. Where the pattern is valid on its own, this holds it to both ends:
it matches a URL just when it leads from the first place of the URL to the last one. What is
accepted differs from what is valid in two ways. A comment at the end of a pattern runs over the
text behind it, so the pattern is refused; and a parenthesis that closes no group of the pattern
closes the group around it, so the pattern is accepted although it is none, and held to both ends
only in part.
-/
namespace Wirelog.WholeUrls

open Pattern

/-- What a pattern on its own is read as, whatever its size. -/
def alone? (p : String) : Option Item :=
  (Reading.run {} p.toList (p.toList.length + 1)).bind fun r =>
    if r.frames.isEmpty then some r.present else none

/-- Whether a pattern stays within the limits. -/
def Fits (item : Item) : Prop :=
  item.depth ≤ maxDepth ∧ item.node.cost ≤ maxCost

/-- A pattern between the conditions for both ends. -/
def held (item : Item) : Item :=
  ⟨.seq (.seq (.look .textStart) item.node) (.look .textEnd), item.depth + 2, false⟩

/-- The text behind a pattern is read as a part of its last comment. -/
def RunsOn (p : String) : Prop :=
  alone? (p ++ ")$") = alone? p

/-- In the pattern, a closing parenthesis stands where no group is open. -/
def ClosesTooMuch (p : String) : Prop :=
  Reading.Stray {} p.toList

/-! ### Limits -/

/-- A pattern is valid on its own just when it is read to its end and stays within the limits. -/
theorem parse_iff (p : String) (node : Node) :
    (∃ parsed, parse? p = some parsed ∧ parsed.node = node) ↔
      ∃ item, alone? p = some item ∧ Fits item ∧ item.node = node := by
  rw [parse?, alone?]
  cases Reading.run {} p.toList (p.toList.length + 1) with
  | none => simp
  | some r =>
    simp only [Option.bind_eq_bind, Option.bind_some]
    cases r.frames.isEmpty with
    | false => simp
    | true =>
      by_cases deep : maxDepth < r.present.depth ∨ maxCost < r.present.node.cost
      · have unfit : ¬ Fits r.present := fun fits => by
          have := fits.1
          have := fits.2
          omega
        simp [deep, unfit]
      · have fits : Fits r.present := ⟨by omega, by omega⟩
        simp [deep, fits]

theorem fits_held (item : Item) :
    Fits (held item) ↔ item.depth + 2 ≤ maxDepth ∧ item.node.cost + 64 ≤ maxCost := by
  have cost : (held item).node.cost = item.node.cost + 64 := by
    simp only [held, Node.cost]
    omega
  rw [Fits, cost]
  rfl

/-! ### Reading between the ends -/

/-- The group around an anchored pattern. -/
private def around : Frame :=
  ⟨[], [⟨.look .textStart, 0, false⟩], none, {}⟩

private theorem run_opening (s : List Char) (n : Nat) :
    Reading.run {} ('^' :: '(' :: '?' :: ':' :: s) (n + 2) =
      (Reading.under {} [around]).run s n := by
  rfl

/-- The reading of an anchored pattern at its end. -/
private def enclosed (r : Reading) : Reading :=
  { r with
    frames := []
    alts := []
    items := [⟨.look .textEnd, 0, false⟩, ⟨r.present.node, 1 + r.present.depth, false⟩,
      ⟨.look .textStart, 0, false⟩]
    flags := {} }

private theorem run_closing {r : Reading} (outside : r.frames = []) {n : Nat} (enough : 2 < n) :
    (r.under [around]).run closing n = some (enclosed r) := by
  obtain ⟨n, rfl⟩ : ∃ k, n = k + 3 := ⟨n - 3, by omega⟩
  obtain ⟨frames, alts, items, flags, captures, names⟩ := r
  cases outside
  rw [Reading.run_item (skipSpace_closing _)]
  rfl

private theorem present_enclosed (r : Reading) : (enclosed r).present = held r.present := by
  show Pattern.sequence [⟨.look .textStart, 0, false⟩, ⟨r.present.node, 1 + r.present.depth, false⟩,
    ⟨.look .textEnd, 0, false⟩] = held r.present
  simp only [Pattern.sequence, held, List.foldl_cons, List.foldl_nil, List.map_cons, List.map_nil,
    Item.mk.injEq, and_true, true_and]
  omega

private theorem run_unclosed {r made : Reading} (inside : r.frames ≠ []) {n : Nat}
    (read : (r.under [around]).run closing n = some made) : made.frames ≠ [] := by
  obtain ⟨frames, alts, items, flags, captures, names⟩ := r
  obtain ⟨f, frames, rfl⟩ := List.exists_cons_of_ne_nil inside
  match n with
  | 0 => cases read
  | n + 1 =>
    rw [Reading.run_item (skipSpace_closing _)] at read
    match n with
    | 0 => cases read
    | n + 1 =>
      change Reading.run _ ['$'] (n + 1) = some made at read
      rw [Reading.run_item (skipSpace_dollar _)] at read
      match n with
      | 0 => cases read
      | n + 1 =>
        change Reading.run _ [] (n + 1) = some made at read
        rw [Reading.run_nil] at read
        cases read
        exact List.append_ne_nil_of_right_ne_nil frames (List.cons_ne_nil around [])

private theorem run_stuck {r : Reading} (outside : r.frames = []) (n : Nat) :
    (r.under []).run closing n = none := by
  match n with
  | 0 => rfl
  | n + 1 =>
    have still : (r.under []).frames = [] := by rw [Reading.frames_under, outside]; rfl
    have stuck : (r.under []).step ')' ['$'] = none := by
      rw [Reading.step, Reading.leave, still]
      rfl
    rw [Reading.run_item (skipSpace_closing _), stuck]
    rfl

/-- How a pattern is read on its own, with the closing behind it, and between the ends. -/
private inductive Ending (p : String) : Prop where
  /-- The pattern ends where its text does. -/
  | whole (item : Item) (alone : alone? p = some item) (behind : alone? (p ++ ")$") = none)
    (anchored : alone? (UrlPattern.anchored p) = some (held item)) (orderly : item.node.Orderly)
  /-- The pattern ends in a comment that runs over the text behind it. -/
  | hidden (item : Item) (alone : alone? p = some item) (behind : alone? (p ++ ")$") = some item)
    (anchored : alone? (UrlPattern.anchored p) = none)
  /-- The pattern is none. -/
  | broken (alone : alone? p = none) (anchored : alone? (UrlPattern.anchored p) = none)

private theorem run_anchored (p : String) :
    Reading.run {} (UrlPattern.anchored p).toList ((UrlPattern.anchored p).toList.length + 1) =
      (Reading.under {} [around]).run (p.toList ++ closing) (p.toList.length + 5) := by
  have text : (UrlPattern.anchored p).toList =
      '^' :: '(' :: '?' :: ':' :: (p.toList ++ closing) := by
    simp [UrlPattern.anchored, closing]
  have fuel : ('^' :: '(' :: '?' :: ':' :: (p.toList ++ closing)).length + 1 =
      p.toList.length + 5 + 2 := by
    simp [closing]
  rw [text, fuel, run_opening]

private theorem run_followed (p : String) :
    Reading.run {} (p ++ ")$").toList ((p ++ ")$").toList.length + 1) =
      (Reading.under {} []).run (p.toList ++ closing) (p.toList.length + 3) := by
  have text : (p ++ ")$").toList = p.toList ++ closing := by simp [closing]
  rw [text]
  simp [closing]
  rfl

/-- What a reading comes to at its end. -/
private def finished (r : Reading) : Option Item :=
  if r.frames.isEmpty then some r.present else none

private theorem finished_closed {r : Reading} (outside : r.frames = []) :
    finished r = some r.present := by
  rw [finished, outside]
  rfl

private theorem finished_open {r : Reading} (inside : r.frames ≠ []) : finished r = none := by
  rw [finished]
  exact if_neg fun spent => inside (List.isEmpty_iff.mp spent)

private theorem alone_eq (p : String) :
    alone? p = (Reading.run {} p.toList (p.toList.length + 1)).bind finished := rfl

private theorem ending (p : String) (tame : ¬ ClosesTooMuch p) : Ending p := by
  obtain ⟨covered, behind⟩ := Reading.run_behind {} p.toList (p.toList.length + 1) tame (by omega)
  have inner := behind [around] (p.toList.length + 5) (by omega)
  have outer := behind [] (p.toList.length + 3) (by omega)
  have orderly : ∀ r, Reading.run {} p.toList (p.toList.length + 1) = some r → r.Orderly :=
    fun r read => Reading.orderly_blank.run read
  rw [← run_anchored] at inner
  rw [← run_followed] at outer
  have alone := alone_eq p
  have anchored := alone_eq (UrlPattern.anchored p)
  have followed := alone_eq (p ++ ")$")
  generalize Reading.run {} p.toList _ = a at inner outer alone orderly
  generalize Reading.run {} (UrlPattern.anchored p).toList _ = b at inner anchored
  generalize Reading.run {} (p ++ ")$").toList _ = c at outer followed
  cases inner with
  | @whole r n enough =>
    by_cases outside : r.frames = []
    · rw [run_closing outside enough, Option.bind_some, finished_closed rfl, present_enclosed]
        at anchored
      rw [Option.bind_some, finished_closed outside] at alone
      refine .whole r.present alone ?_ anchored (orderly r rfl).present
      rw [followed]
      cases outer with
      | @whole _ m more =>
        rw [run_stuck outside m]
        rfl
    · rw [Option.bind_some, finished_open outside] at alone
      refine .broken alone ?_
      rw [anchored, Option.bind_eq_none_iff]
      exact fun made read => finished_open (run_unclosed outside read)
  | @hidden r =>
    have inside : (r.under [around]).frames ≠ [] :=
      List.append_ne_nil_of_right_ne_nil r.frames (List.cons_ne_nil around [])
    rw [Option.bind_some, finished_open inside] at anchored
    by_cases outside : r.frames = []
    · rw [Option.bind_some, finished_closed outside] at alone
      refine .hidden r.present alone ?_ anchored
      rw [followed]
      cases outer with
      | hidden =>
        have still : (r.under []).frames = [] := by rw [Reading.frames_under, outside]; rfl
        exact finished_closed still
    · rw [Option.bind_some, finished_open outside] at alone
      exact .broken alone anchored
  | broken unclosed =>
    refine .broken alone ?_
    rw [anchored, Option.bind_eq_none_iff]
    intro made read
    obtain ⟨inner, frames⟩ := unclosed made read
    apply finished_open
    rw [frames]
    exact List.append_ne_nil_of_right_ne_nil inner (List.cons_ne_nil around [])

/-! ### Acceptance -/

private theorem isSome_iff (p : String) :
    (parse? p).isSome = true ↔ ∃ item, alone? p = some item ∧ Fits item := by
  constructor
  · intro valid
    obtain ⟨parsed, read⟩ := Option.isSome_iff_exists.mp valid
    obtain ⟨item, alone, fits, _⟩ := (parse_iff p parsed.node).mp ⟨parsed, read, rfl⟩
    exact ⟨item, alone, fits⟩
  · rintro ⟨item, alone, fits⟩
    obtain ⟨parsed, read, _⟩ := (parse_iff p item.node).mpr ⟨item, alone, fits, rfl⟩
    rw [read]
    rfl

private theorem isOk_iff (p : String) :
    (UrlPattern.of p).isOk = true ↔
      ∃ item, alone? (UrlPattern.anchored p) = some item ∧ Fits item := by
  rw [← isSome_iff, UrlPattern.of]
  cases parse? (UrlPattern.anchored p) with
  | none => exact ⟨nofun, nofun⟩
  | some parsed => exact ⟨fun _ => rfl, fun _ => rfl⟩

/-- Two more levels of nesting and two more conditions stay within the limits. -/
def Roomy (p : String) : Prop :=
  ∀ item, alone? p = some item → item.depth + 2 ≤ maxDepth ∧ item.node.cost + 64 ≤ maxCost

/-- A pattern that is valid on its own leads from the first place of a URL to the last one. -/
def Covers (p url : String) : Prop :=
  ∃ parsed, parse? p = some parsed ∧
    Matches url.toList.toArray parsed.node 0 url.toList.toArray.size

/-- What becomes of a pattern that has to match whole URLs. -/
structure Whole (p : String) : Prop where
  /-- What is valid on its own is accepted, unless a comment at its end runs on or the ends around
  it take it over the limits. -/
  accepted : (parse? p).isSome = true → ((UrlPattern.of p).isOk = true ↔ ¬ RunsOn p ∧ Roomy p)
  /-- What is accepted is valid on its own, unless it closes the group around it. -/
  valid : (UrlPattern.of p).isOk = true → ((parse? p).isSome = true ↔ ¬ ClosesTooMuch p)
  /-- What is both matches a URL just when it matches the whole of it. -/
  whole : ∀ q, UrlPattern.of p = .ok q → (parse? p).isSome = true →
    ∀ url, q.isMatch url = true ↔ Covers p url

/-- A pattern of a policy that was accepted and is valid on its own. -/
def Sound (q : UrlPattern) : Prop :=
  UrlPattern.of q.source = .ok q ∧ (parse? q.source).isSome = true

/-- No rule of a policy takes effect on a URL that its pattern matches only in part. -/
structure Effects (p : Policy) : Prop where
  /-- A forbidden URL is one that a pattern for forbidden URLs covers. -/
  forbidden : (∀ rule ∈ p.blacklist, Sound rule.1) →
    ∀ url status, p.block? url = some (.blacklisted status) →
      ∃ q, (q, status) ∈ p.blacklist ∧ Covers q.source url
  /-- Where only some URLs are allowed, an allowed one is one that a pattern for them covers. -/
  allowed : ∀ patterns status, p.whitelist = some (patterns, status) → (∀ q ∈ patterns, Sound q) →
    ∀ url, p.block? url = none → ∃ q ∈ patterns, Covers q.source url
  /-- Where headers go to some URLs only, they go to those that the pattern covers. -/
  filtered : ∀ q, p.headerFilter = some q → Sound q →
    ∀ url, p.addedHeaders url ≠ [] → Covers q.source url

private theorem tame_of_valid {p : String} (valid : (parse? p).isSome = true) :
    ¬ ClosesTooMuch p := by
  intro stray
  obtain ⟨item, alone, _⟩ := (isSome_iff p).mp valid
  rw [alone_eq, Reading.run_stray stray] at alone
  cases alone

private theorem accepted_of_valid (p : String) (valid : (parse? p).isSome = true) :
    (UrlPattern.of p).isOk = true ↔ ¬ RunsOn p ∧ Roomy p := by
  obtain ⟨item, alone, _⟩ := (isSome_iff p).mp valid
  rw [isOk_iff, RunsOn, Roomy, alone]
  cases ending p (tame_of_valid valid) with
  | broken none => simp [none] at alone
  | hidden same read behind anchored =>
    obtain rfl := Option.some.inj (read.symm.trans alone)
    simp [behind, anchored]
  | whole same read behind anchored =>
    obtain rfl := Option.some.inj (read.symm.trans alone)
    simp [behind, anchored, fits_held]

private theorem valid_of_accepted (p : String) (accepted : (UrlPattern.of p).isOk = true) :
    (parse? p).isSome = true ↔ ¬ ClosesTooMuch p := by
  refine ⟨tame_of_valid, fun tame => ?_⟩
  obtain ⟨whole, read, fits⟩ := (isOk_iff p).mp accepted
  cases ending p tame with
  | broken _ none | hidden _ _ _ none => simp [none] at read
  | whole item alone _ anchored =>
    obtain rfl := Option.some.inj (anchored.symm.trans read)
    obtain ⟨depth, cost⟩ := (fits_held item).mp fits
    exact (isSome_iff p).mpr ⟨item, alone, by omega, by omega⟩

private theorem read_of {p : String} {q : UrlPattern} (made : UrlPattern.of p = .ok q) :
    ∃ parsed, parse? (UrlPattern.anchored p) = some parsed ∧ parsed.node = q.node := by
  rw [UrlPattern.of] at made
  split at made
  case h_1 parsed read =>
    cases made
    exact ⟨parsed, read, rfl⟩
  case h_2 => cases made

private theorem isMatch_iff {p : String} {q : UrlPattern} (made : UrlPattern.of p = .ok q)
    (valid : (parse? p).isSome = true) (url : String) : q.isMatch url = true ↔ Covers p url := by
  obtain ⟨parsed, read⟩ := Option.isSome_iff_exists.mp valid
  obtain ⟨own, alone, _, node⟩ := (parse_iff p parsed.node).mp ⟨parsed, read, rfl⟩
  have covers : Covers p url ↔
      Matches url.toList.toArray parsed.node 0 url.toList.toArray.size := by
    simp [Covers, read]
  obtain ⟨whole, around, _, same⟩ := (parse_iff (UrlPattern.anchored p) q.node).mp (read_of made)
  cases ending p (tame_of_valid valid) with
  | broken none => simp [none] at alone
  | hidden _ _ _ none => simp [none] at around
  | whole item read _ anchored orderly =>
    obtain rfl := Option.some.inj (read.symm.trans alone)
    obtain rfl := Option.some.inj (anchored.symm.trans around)
    rw [covers, ← node, UrlPattern.isMatch, ← same]
    exact occursIn_ends url.toList.toArray orderly

private theorem covers_of_match {q : UrlPattern} (sound : Sound q) {url : String}
    (found : q.isMatch url = true) : Covers q.source url :=
  (isMatch_iff sound.1 sound.2 url).mp found

private theorem effects (policy : Policy) : Effects policy := by
  refine ⟨fun sound url status blocked => ?_, fun patterns status listed sound url free => ?_,
    fun q filter sound url added => ?_⟩
  · rw [Policy.block?] at blocked
    split at blocked
    case h_1 q _ found =>
      cases blocked
      have listed := List.mem_of_find?_eq_some found
      have matched := List.find?_some found
      exact ⟨q, listed, covers_of_match (sound _ listed) matched⟩
    case h_2 =>
      split at blocked
      · split at blocked <;> cases blocked
      · cases blocked
  · rw [Policy.block?, listed] at free
    split at free
    case h_1 => cases free
    case h_2 =>
      dsimp only at free
      split at free
      case isTrue one =>
        obtain ⟨q, member, matched⟩ := List.any_eq_true.mp one
        exact ⟨q, member, covers_of_match (sound q member) matched⟩
      case isFalse => cases free
  · rw [Policy.addedHeaders, filter] at added
    dsimp only at added
    split at added
    case isTrue matched => exact covers_of_match sound matched
    case isFalse => exact (added rfl).elim

/-- A pattern that is read between the ends as the pattern that it is on its own takes effect on no
URL that it matches only in part; the two ways in which it may be read otherwise are an open comment
and a parenthesis too many. -/
theorem patterns_cover_whole_urls (p : String) (policy : Policy) : Whole p ∧ Effects policy := by
  refine ⟨⟨accepted_of_valid p, valid_of_accepted p, ?_⟩, effects policy⟩
  intro q made valid
  exact isMatch_iff made valid

/-- Both alternatives of a pattern are held to both ends, not only the first and the last one to one
end each. -/
theorem alternatives_cover_whole_urls :
    Covers "http://h/a|http://h/b" "http://h/a" ∧
      ¬ Covers "http://h/a|http://h/b" "http://h/ab" := by
  have valid : (parse? "http://h/a|http://h/b").isSome = true := by decide +kernel
  have answers : (UrlPattern.of "http://h/a|http://h/b").toOption.map
      (fun q => (q.isMatch "http://h/a", q.isMatch "http://h/ab")) = some (true, false) := by
    decide +kernel
  have whole := (patterns_cover_whole_urls "http://h/a|http://h/b" {}).1.whole
  cases made : UrlPattern.of "http://h/a|http://h/b" with
  | error reason =>
    rw [made] at answers
    cases answers
  | ok q =>
    rw [made] at answers
    obtain ⟨first, longer⟩ := Prod.mk.inj (Option.some.inj answers)
    refine ⟨(whole q made valid _).mp first, fun covered => ?_⟩
    rw [(whole q made valid _).mpr covered] at longer
    cases longer

/-- With a parenthesis too many, a text that is no pattern is accepted, and matches URLs of which it
says only how they start; with an open comment, a valid pattern is refused. -/
theorem parenthesis_too_many_opens_the_ends :
    (parse? "http://h/a)|(?:http://h/b").isSome = false ∧
      (UrlPattern.of "http://h/a)|(?:http://h/b").toOption.map (·.isMatch "http://h/abc") =
        some true ∧
      (parse? "(?x)http://h/x # none").isSome = true ∧
      (UrlPattern.of "(?x)http://h/x # none").isOk = false := by
  decide +kernel

end Wirelog.WholeUrls
