import Mathlib.Data.List.Dedup
import Mathlib.Data.List.Perm.Basic
import Wirelog.Authority.Minting

/-! Requests for leaves that overlap. Looking for a kept leaf and keeping a new one are two moments,
and any number of requests for one host may make leaves of their own in between. Only the first of
these leaves is kept, and whoever kept none answers with it. So a host has one leaf, two hosts never
share one, and as many leaves are kept as there are hosts for which a leaf was brought in. -/
namespace Wirelog.SharedLeaves
open Authority

/-! ## Histories -/

/-- An authority whose first request has yet to come. -/
def opened (certificate key : String) (fresh : Leaf) : Office :=
  { authority := { certificate, key }, fresh }

/-- The host that an action asks for. -/
def host? : Action → Option String
  | .ask domain => some domain
  | .advance .. => none

/-- The hosts that requests are for, in the order in which they come in. -/
def hosts (actions : List Action) : List String :=
  actions.filterMap host?

/-- The leaf that a request has answered with. -/
def answer? (o : Office) (i : Nat) : Option Leaf :=
  o.wishes[i]?.bind fun w =>
    match w.progress with
    | .done leaf => leaf
    | _ => none

/-- The name for which an action brings a leaf in, to be kept unless there is one. -/
def brought? (o : Office) : Action → Option String
  | .ask _ => none
  | .advance i _ =>
    o.wishes[i]?.bind fun w =>
      match w.progress with
      | .minted _ => some w.name
      | _ => none

/-- The names for which leaves are brought in, in this order. -/
def broughtIn (o : Office) : List Action → List String
  | [] => []
  | action :: rest => (brought? o action).toList ++ broughtIn (o.step action) rest

variable {o p : Office} {i j : Nat} {v w : Wish} {leaf : Leaf}

/-! ## One step -/

/-- The office when a request has come to another point. -/
def moved (o : Office) (i : Nat) (w : Wish) (progress : Progress) : Office :=
  { o with wishes := o.wishes.set i { w with progress } }

/-- What becomes of an office when a request goes on. -/
inductive Goes (o : Office) (i : Nat) : Office → Prop where
  | rests : Goes o i o
  /-- The request goes on without a leaf of its own, and may answer with a kept one. -/
  | moves {w : Wish} {next : Progress} (there : o.wishes[i]? = some w)
      (underway : ∀ answer, w.progress ≠ .done answer)
      (kept : ∀ leaf, next = .done (some leaf) → o.authority.leaf? w.name = some leaf)
      (bare : ∀ leaf, next ≠ .minted leaf) : Goes o i (moved o i w next)
  | mints {w : Wish} (there : o.wishes[i]? = some w) (minting : w.progress = .minting) :
      Goes o i { moved o i w (.minted o.fresh) with fresh := o.fresh + 1 }
  | keeps {w : Wish} {leaf : Leaf} (there : o.wishes[i]? = some w)
      (minted : w.progress = .minted leaf) (first : o.authority.leaf? w.name = none) :
      Goes o i { moved o i w (.done (some leaf)) with
        authority := { o.authority with leaves := o.authority.leaves ++ [(w.name, leaf)] } }

theorem goes_advance (o : Office) (i : Nat) (succeeds : Bool) :
    Goes o i (o.advance i succeeds) := by
  cases there : o.wishes[i]? with
  | none =>
    simp only [Office.advance, there]
    exact .rests
  | some w =>
    obtain ⟨name, progress⟩ := w
    simp only [Office.advance, there]
    cases progress with
    | asked =>
      cases found : o.authority.leaf? name with
      | some leaf => exact .moves there nofun (fun _ same => by cases same; exact found) nofun
      | none => exact .moves there nofun nofun nofun
    | minting =>
      cases succeeds with
      | true => exact .mints there rfl
      | false => exact .moves there nofun nofun nofun
    | minted leaf =>
      cases found : o.authority.leaf? name with
      | some kept =>
        simp only [Authority.keep, found]
        exact .moves there nofun (fun _ same => by cases same; exact found) nofun
      | none =>
        simp only [Authority.keep, found]
        exact .keeps there rfl found
    | done answer => exact .rests

/-- A request at a place after one at a place went on. -/
theorem wish_moved (there : o.wishes[i]? = some v) (next : Progress) (j : Nat) :
    (o.wishes.set i { v with progress := next })[j]? =
      if i = j then some { v with progress := next } else o.wishes[j]? := by
  have inside := (List.getElem?_eq_some_iff.mp there).1
  rw [List.getElem?_set]
  simp [inside]

/-- A request that is found after one went on is this one, or was found before. -/
theorem found_moved {next : Progress} (there : o.wishes[i]? = some v)
    (found : (moved o i v next).wishes[j]? = some w) :
    i = j ∧ w = { v with progress := next } ∨ i ≠ j ∧ o.wishes[j]? = some w := by
  rw [moved, wish_moved there] at found
  split at found
  case isTrue here => exact .inl ⟨here, (Option.some.inj found).symm⟩
  case isFalse away => exact .inr ⟨away, found⟩

/-! ## What always holds -/

/-- The leaves that an authority keeps. -/
def kept (a : Authority) : List Leaf :=
  a.leaves.map Prod.snd

/-- That leaves are numbered as they are made, that each is with one name or one request, and that
requests have answered with what is kept. -/
structure Orderly (o : Office) : Prop where
  named : (o.authority.leaves.map Prod.fst).Nodup
  apart : (kept o.authority).Nodup
  old : ∀ leaf ∈ kept o.authority, leaf < o.fresh
  answered : ∀ (i : Nat) (w : Wish) (leaf : Leaf), o.wishes[i]? = some w →
    w.progress = .done (some leaf) → o.authority.leaf? w.name = some leaf
  made : ∀ (i : Nat) (w : Wish) (leaf : Leaf), o.wishes[i]? = some w →
    w.progress = .minted leaf → leaf < o.fresh ∧ leaf ∉ kept o.authority
  owned : ∀ (i j : Nat) (v w : Wish) (leaf : Leaf), o.wishes[i]? = some v →
    o.wishes[j]? = some w → v.progress = .minted leaf → w.progress = .minted leaf → i = j

theorem orderly_opened (certificate key : String) (fresh : Leaf) :
    Orderly (opened certificate key fresh) :=
  ⟨List.nodup_nil, List.nodup_nil, nofun, nofun, nofun, nofun⟩

/-- A new leaf is found under its name, unless another one is, and other names are found as
before. -/
theorem leaf_with (a : Authority) (name other : String) (leaf : Leaf) :
    ({ a with leaves := a.leaves ++ [(name, leaf)] } : Authority).leaf? other =
      (a.leaf? other).or (if name = other then some leaf else none) := by
  simp only [Authority.leaf?, List.find?_append]
  cases a.leaves.find? (·.1 == other) <;> by_cases same : name = other <;> simp [same]

theorem mem_names_iff (a : Authority) (name : String) :
    name ∈ a.leaves.map Prod.fst ↔ (a.leaf? name).isSome := by
  simp [Authority.leaf?]

theorem mem_of_leaf {a : Authority} {name : String} (found : a.leaf? name = some leaf) :
    (name, leaf) ∈ a.leaves := by
  obtain ⟨⟨other, _⟩, there, rfl⟩ := Option.map_eq_some_iff.mp found
  have same : other = name := by simpa using List.find?_some there
  exact same ▸ List.mem_of_find?_eq_some there

/-- A request behind a step that brought in no leaf is the one that was there, or has none of its
own. -/
theorem orderly_moves {next : Progress} (orderly : Orderly o) (there : o.wishes[i]? = some w)
    (right : ∀ leaf, next = .done (some leaf) → o.authority.leaf? w.name = some leaf)
    (bare : ∀ leaf, next ≠ .minted leaf) : Orderly (moved o i w next) := by
  obtain ⟨named, apart, old, answered, made, owned⟩ := orderly
  refine ⟨named, apart, old, ?_, ?_, ?_⟩
  · intro j v leaf found done
    obtain ⟨rfl, rfl⟩ | ⟨-, found⟩ := found_moved there found
    · exact right leaf done
    · exact answered j v leaf found done
  · intro j v leaf found minted
    obtain ⟨rfl, rfl⟩ | ⟨-, found⟩ := found_moved there found
    · exact absurd minted (bare leaf)
    · exact made j v leaf found minted
  · intro j k u v leaf found found' minted minted'
    obtain ⟨rfl, rfl⟩ | ⟨-, found⟩ := found_moved there found
    · exact absurd minted (bare leaf)
    obtain ⟨rfl, rfl⟩ | ⟨-, found'⟩ := found_moved there found'
    · exact absurd minted' (bare leaf)
    · exact owned j k u v leaf found found' minted minted'

theorem orderly_mints (orderly : Orderly o) (there : o.wishes[i]? = some w) :
    Orderly { moved o i w (.minted o.fresh) with fresh := o.fresh + 1 } := by
  obtain ⟨named, apart, old, answered, made, owned⟩ := orderly
  have older {j : Nat} {v : Wish} (found : o.wishes[j]? = some v) :
      v.progress ≠ .minted o.fresh := fun minted =>
    Nat.lt_irrefl _ (made j v _ found minted).1
  refine ⟨named, apart, fun leaf member => Nat.lt_succ_of_lt (old leaf member), ?_, ?_, ?_⟩
  · intro j v leaf found done
    obtain ⟨rfl, rfl⟩ | ⟨-, found⟩ := found_moved there found
    · cases done
    · exact answered j v leaf found done
  · intro j v leaf found minted
    obtain ⟨rfl, rfl⟩ | ⟨-, found⟩ := found_moved there found
    · cases minted
      exact ⟨Nat.lt_succ_self _, fun member => Nat.lt_irrefl _ (old _ member)⟩
    · have own := made j v leaf found minted
      exact ⟨Nat.lt_succ_of_lt own.1, own.2⟩
  · intro j k u v leaf found found' minted minted'
    obtain ⟨rfl, rfl⟩ | ⟨-, found⟩ := found_moved there found
    · cases minted
      obtain ⟨rfl, rfl⟩ | ⟨-, found'⟩ := found_moved there found'
      · rfl
      · exact absurd minted' (older found')
    · obtain ⟨rfl, rfl⟩ | ⟨-, found'⟩ := found_moved there found'
      · cases minted'
        exact absurd minted (older found)
      · exact owned j k u v leaf found found' minted minted'

theorem orderly_keeps (orderly : Orderly o) (there : o.wishes[i]? = some w)
    (minted : w.progress = .minted leaf) (first : o.authority.leaf? w.name = none) :
    Orderly { moved o i w (.done (some leaf)) with
      authority := { o.authority with leaves := o.authority.leaves ++ [(w.name, leaf)] } } := by
  obtain ⟨named, apart, old, answered, made, owned⟩ := orderly
  obtain ⟨before, new⟩ := made i w leaf there minted
  have unnamed : w.name ∉ o.authority.leaves.map Prod.fst := by
    rw [mem_names_iff, first]
    exact Bool.false_ne_true
  constructor
  case named =>
    rw [List.map_append, List.nodup_append]
    refine ⟨named, List.nodup_singleton _, ?_⟩
    rintro name member _ (same : _ ∈ [w.name]) rfl
    exact unnamed (List.mem_singleton.mp same ▸ member)
  case apart =>
    rw [kept, List.map_append, List.nodup_append]
    refine ⟨apart, List.nodup_singleton _, ?_⟩
    rintro other member _ (same : _ ∈ [leaf]) rfl
    exact new (List.mem_singleton.mp same ▸ member)
  case old =>
    simp only [kept, List.map_append, List.mem_append]
    rintro other (member | same)
    · exact old other member
    · cases List.mem_singleton.mp same
      exact before
  case answered =>
    intro j v other found done
    rw [leaf_with]
    obtain ⟨rfl, rfl⟩ | ⟨-, found⟩ := found_moved there found
    · cases done
      simp [first]
    · rw [answered j v other found done, Option.some_or]
  case made =>
    intro j v other found own
    obtain ⟨rfl, rfl⟩ | ⟨elsewhere, found⟩ := found_moved there found
    · cases own
    · refine ⟨(made j v other found own).1, ?_⟩
      simp only [kept, List.map_append, List.mem_append, not_or]
      refine ⟨(made j v other found own).2, fun same => ?_⟩
      cases List.mem_singleton.mp same
      exact elsewhere (owned i j w v leaf there found minted own)
  case owned =>
    intro j k u v other found found' own own'
    obtain ⟨rfl, rfl⟩ | ⟨-, found⟩ := found_moved there found
    · cases own
    obtain ⟨rfl, rfl⟩ | ⟨-, found'⟩ := found_moved there found'
    · cases own'
    · exact owned j k u v other found found' own own'

theorem orderly_goes (orderly : Orderly o) (goes : Goes o i p) : Orderly p := by
  cases goes with
  | rests => exact orderly
  | moves there underway kept bare => exact orderly_moves orderly there kept bare
  | mints there minting => exact orderly_mints orderly there
  | keeps there minted first => exact orderly_keeps orderly there minted first

theorem orderly_step (orderly : Orderly o) (action : Action) : Orderly (o.step action) := by
  cases action with
  | advance i succeeds => exact orderly_goes orderly (goes_advance o i succeeds)
  | ask domain =>
    obtain ⟨named, apart, old, answered, made, owned⟩ := orderly
    have before {j : Nat} {v : Wish} (found : (o.step (.ask domain)).wishes[j]? = some v)
        (begun : v.progress ≠ .asked) : o.wishes[j]? = some v := by
      simp only [Office.step, List.getElem?_append] at found
      split at found
      · exact found
      · rw [List.getElem?_singleton] at found
        split at found
        · cases found
          exact absurd rfl begun
        · cases found
    refine ⟨named, apart, old, ?_, ?_, ?_⟩
    · exact fun j v leaf found done => answered j v leaf (before found (done ▸ nofun)) done
    · exact fun j v leaf found minted => made j v leaf (before found (minted ▸ nofun)) minted
    · exact fun j k u v leaf found found' minted minted' =>
        owned j k u v leaf (before found (minted ▸ nofun)) (before found' (minted' ▸ nofun)) minted
          minted'

theorem orderly_run (orderly : Orderly o) (actions : List Action) : Orderly (o.run actions) := by
  induction actions generalizing o with
  | nil => exact orderly
  | cons action rest ih => exact ih (orderly_step orderly action)

/-! ## Answers -/

theorem answer_iff : answer? o i = some leaf ↔
    ∃ w, o.wishes[i]? = some w ∧ w.progress = .done (some leaf) := by
  rw [answer?, Option.bind_eq_some_iff]
  refine exists_congr fun w => and_congr_right fun _ => ?_
  cases w.progress <;> simp

/-- A request that is over stays as it is. -/
theorem done_goes {answer : Option Leaf} (goes : Goes o i p) (there : o.wishes[j]? = some w)
    (done : w.progress = .done answer) : p.wishes[j]? = some w := by
  have other {v : Wish} (found : o.wishes[i]? = some v)
      (underway : ∀ answer, v.progress ≠ .done answer) (next : Progress) :
      (moved o i v next).wishes[j]? = some w := by
    have apart : i ≠ j := by
      rintro rfl
      cases there.symm.trans found
      exact underway answer done
    rw [moved, wish_moved found, if_neg apart, there]
  cases goes with
  | rests => exact there
  | moves found underway => exact other found underway _
  | mints found minting => exact other found (minting ▸ nofun) _
  | keeps found minted => exact other found (minted ▸ nofun) _

theorem answer_lasts (answered : answer? o i = some leaf) (actions : List Action) :
    answer? (o.run actions) i = some leaf := by
  induction actions generalizing o with
  | nil => exact answered
  | cons action rest ih =>
    refine ih ?_
    obtain ⟨w, there, done⟩ := answer_iff.mp answered
    refine answer_iff.mpr ⟨w, ?_, done⟩
    cases action with
    | ask domain =>
      have inside := (List.getElem?_eq_some_iff.mp there).1
      rwa [Office.step, List.getElem?_append_left inside]
    | advance j succeeds => exact done_goes (goes_advance o j succeeds) there done

/-- The names of requests are those of the hosts that they are for, in lower case. -/
theorem names_step (o : Office) (action : Action) :
    (o.step action).wishes.map Wish.name =
      o.wishes.map Wish.name ++ (host? action).toList.map Text.asciiLower := by
  cases action with
  | ask domain => simp [Office.step, host?]
  | advance i succeeds =>
    have goes := goes_advance o i succeeds
    have same {w : Wish} (there : o.wishes[i]? = some w) (next : Progress) :
        (moved o i w next).wishes.map Wish.name = o.wishes.map Wish.name := by
      obtain ⟨inside, rfl⟩ := List.getElem?_eq_some_iff.mp there
      have inside' : i < (o.wishes.map Wish.name).length := by rwa [List.length_map]
      have own := List.set_getElem_self inside'
      rw [List.getElem_map] at own
      exact List.map_set.trans own
    rw [host?, Option.toList_none, List.map_nil, List.append_nil, Office.step]
    generalize o.advance i succeeds = p at goes
    cases goes with
    | rests => rfl
    | moves found => exact same found _
    | mints found => exact same found _
    | keeps found => exact same found _

theorem names_run (o : Office) (actions : List Action) :
    (o.run actions).wishes.map Wish.name =
      o.wishes.map Wish.name ++ (hosts actions).map Text.asciiLower := by
  induction actions generalizing o with
  | nil => rw [hosts, List.filterMap_nil, List.map_nil, List.append_nil, Office.run, List.foldl_nil]
  | cons action rest ih =>
    rw [Office.run, List.foldl_cons, ← Office.run, ih, names_step, List.append_assoc,
      ← List.map_append, hosts, hosts, List.filterMap_cons]
    cases host? action <;> rfl

theorem name_of_host {certificate key host : String} {fresh : Leaf} {actions : List Action}
    (there : ((opened certificate key fresh).run actions).wishes[i]? = some w)
    (asked : (hosts actions)[i]? = some host) : w.name = Text.asciiLower host := by
  have names := congrArg (·[i]?) (names_run (opened certificate key fresh) actions)
  have nobody : (opened certificate key fresh).wishes.map Wish.name = [] := rfl
  simpa [nobody, there, asked] using names

/-! ## Leaves that are kept -/

/-- A leaf is kept under the names that had one, and those for which one is brought in. -/
theorem kept_step (o : Office) (action : Action) (name : String) :
    ((o.step action).authority.leaf? name).isSome ↔
      (o.authority.leaf? name).isSome ∨ brought? o action = some name := by
  cases action with
  | ask domain => simp [Office.step, brought?]
  | advance i succeeds =>
    simp only [Office.step, brought?]
    cases there : o.wishes[i]? with
    | none => simp [Office.advance, there]
    | some w =>
      obtain ⟨own, progress⟩ := w
      simp only [Office.advance, there]
      cases progress with
      | asked => cases o.authority.leaf? own <;> simp
      | minting => cases succeeds <;> simp
      | done answer => simp
      | minted leaf =>
        cases found : o.authority.leaf? own with
        | some other =>
          simp only [Authority.keep, found, Option.bind_some, Option.some.injEq]
          refine ⟨.inl, ?_⟩
          rintro (before | rfl)
          · exact before
          · exact found ▸ rfl
        | none =>
          simp only [Authority.keep, found, Option.bind_some, Option.some.injEq, leaf_with,
            Option.isSome_or, Bool.or_eq_true]
          refine or_congr_right ?_
          split <;> simp [*]

theorem kept_run (o : Office) (actions : List Action) (name : String) :
    ((o.run actions).authority.leaf? name).isSome ↔
      (o.authority.leaf? name).isSome ∨ name ∈ broughtIn o actions := by
  induction actions generalizing o with
  | nil => simp [Office.run, broughtIn]
  | cons action rest ih =>
    rw [Office.run, List.foldl_cons, ← Office.run, ih, kept_step, broughtIn, List.mem_append,
      or_assoc, Option.mem_toList]

/-- As many leaves are kept as there are names for which one was brought in. -/
theorem count_kept (certificate key : String) (fresh : Leaf) (actions : List Action) :
    let start := opened certificate key fresh
    (start.run actions).authority.leaves.length = (broughtIn start actions).dedup.length := by
  intro start
  have orderly := orderly_run (orderly_opened certificate key fresh) actions
  have nothing (name : String) : (start.authority.leaf? name).isSome = false := rfl
  have perm : ((start.run actions).authority.leaves.map Prod.fst).Perm
      (broughtIn start actions).dedup := by
    refine (List.perm_ext_iff_of_nodup orderly.named (List.nodup_dedup _)).mpr fun name => ?_
    rw [mem_names_iff, kept_run, nothing, List.mem_dedup]
    exact ⟨fun held => held.resolve_left Bool.false_ne_true, .inr⟩
  rw [← perm.length_eq, List.length_map]

/-! ## All requests -/

/-- What requests for leaves come to. -/
structure Shared (start : Office) (actions : List Action) : Prop where
  /-- Two requests that have answered have the same leaf just if they are for the same host, letter
  case aside. -/
  same : ∀ (i j : Nat) (first second : String) (leaf other : Leaf),
    (hosts actions)[i]? = some first → (hosts actions)[j]? = some second →
    answer? (start.run actions) i = some leaf → answer? (start.run actions) j = some other →
    (leaf = other ↔ Text.sameAscii first second)
  /-- An answer is final. -/
  final : ∀ (i : Nat) (leaf : Leaf) (more : List Action),
    answer? (start.run actions) i = some leaf →
      answer? (start.run (actions ++ more)) i = some leaf
  /-- Where no leaf can be made, the request is over, and the leaves that are kept stay the same. -/
  failed : ∀ (i : Nat) (w : Wish), (start.run actions).wishes[i]? = some w →
    w.progress = .minting →
    let next := (start.run actions).step (.advance i false)
    next.authority = (start.run actions).authority ∧
      next.wishes[i]? = some { w with progress := .done none }
  /-- As many leaves are kept as there are names for which a leaf was brought in. -/
  counted : (start.run actions).authority.leaves.length = (broughtIn start actions).dedup.length

/-- However requests for leaves overlap, each host has one leaf and no two hosts share one. -/
theorem leaves_are_shared_by_host (certificate key : String) (fresh : Leaf)
    (actions : List Action) : Shared (opened certificate key fresh) actions := by
  have orderly := orderly_run (orderly_opened certificate key fresh) actions
  constructor
  case same =>
    intro i j first second leaf other asked asked' answered answered'
    obtain ⟨v, there, done⟩ := answer_iff.mp answered
    obtain ⟨w, there', done'⟩ := answer_iff.mp answered'
    have held := orderly.answered i v leaf there done
    have held' := orderly.answered j w other there' done'
    have named := name_of_host there asked
    have named' := name_of_host there' asked'
    rw [Text.sameAscii, beq_iff_eq, ← named, ← named']
    constructor
    · rintro rfl
      exact congrArg Prod.fst
        (List.inj_on_of_nodup_map orderly.apart (mem_of_leaf held) (mem_of_leaf held') rfl)
    · intro same
      exact Option.some.inj ((same ▸ held).symm.trans held')
  case final =>
    intro i leaf more answered
    rw [Office.run, List.foldl_append]
    exact answer_lasts answered more
  case failed =>
    intro i w there minting next
    obtain ⟨name, progress⟩ := w
    cases minting
    have ends : next = moved ((opened certificate key fresh).run actions) i ⟨name, .minting⟩
        (.done none) := by
      simp only [next, Office.step, Office.advance, there]
      rfl
    rw [ends]
    exact ⟨rfl, by rw [moved, wish_moved there, if_pos rfl]⟩
  case counted => exact count_kept certificate key fresh actions

/-- Two requests for one host make a leaf each, and both answer with the one that is kept first. -/
theorem first_leaf_is_shared :
    let actions : List Action := [.ask "A.test", .ask "a.test", .advance 0 true, .advance 1 true,
      .advance 0 true, .advance 1 true, .advance 1 true, .advance 0 true]
    let o := (opened "" "" 7).run actions
    answer? o 0 = some 8 ∧ answer? o 1 = some 8 ∧ o.authority.leaves.length = 1 ∧
      Text.sameAscii "A.test" "a.test" := by
  intro actions o
  have shared := leaves_are_shared_by_host "" "" 7 actions
  have one : answer? o 0 = some 8 := by decide +kernel
  have two : answer? o 1 = some 8 := by decide +kernel
  exact ⟨one, two, shared.counted.trans (by decide +kernel),
    (shared.same 0 1 _ _ _ _ rfl rfl one two).mp rfl⟩

end Wirelog.SharedLeaves
