import Wirelog.Fleet.Overlap
import Wirelog.Proofs.FreePorts

/-! Creations and deletions that nothing disturbs. While calls overlap, a creation goes on by steps
of which each sees what the others have left; when its own steps follow one another, they come to
what a fleet with proxies on the same ports makes of the order, and the same goes for a deletion. So
the steps take apart what a fleet does, and add nothing to it. -/
namespace Wirelog.CreationSteps
open Fleet Fleet.Overlap Gateway FreePorts

variable {f : Fleet} {y z : Yard} {m m' : Machine} {s : Settings} {address : Net.Ip}
  {relay : Option String} {port q : UInt16} {wish : Wish} {o : Order}

/-! ## Fleets and yards -/

/-- A fleet and a yard have proxies on the same ports, which came there in the same order. -/
def SamePorts (f : Fleet) (y : Yard) : Prop :=
  f.members.map Prod.fst = y.registry.map Prod.fst

/-- The system gives out no port zero, no port but the one that it is asked for unless any will do,
and none that a proxy has. -/
structure Serves (m : Machine) (y : Yard) (address : Net.Ip) : Prop where
  asked : AsAsked m address
  unused : ∀ p q, m.bind address p = .listening q → y.inUse address q = false

theorem Serves.rebound (serves : Serves m y address) (kept : m'.bind = m.bind) :
    Serves m' y address where
  asked p q given := serves.asked p q (kept ▸ given)
  unused p q given := serves.unused p q (kept ▸ given)

theorem isSome_find? {α : Type} (l : List (UInt16 × α)) (port : UInt16) :
    ((l.find? (·.1 == port)).map Prod.snd).isSome = (l.map Prod.fst).contains port := by
  rw [Option.isSome_map, List.contains_eq_any_beq, List.any_map, List.isSome_find?]
  exact congrArg (l.any ·) (funext fun x => Bool.beq_comm)

theorem registered_iff (same : SamePorts f y) (port : UInt16) :
    (f.get? port).isSome = (y.get? port).isSome := by
  rw [Fleet.get?, Yard.get?, isSome_find?, isSome_find?, same]

theorem lists_alike (same : SamePorts f y) : f.list = y.list := by
  rw [Fleet.list, Yard.list, same]

theorem ports_filter {α : Type} (l : List (UInt16 × α)) (port : UInt16) :
    (l.filter fun x => !(x.1 == port)).map Prod.fst =
      (l.map Prod.fst).filter fun p => !(p == port) := by
  rw [List.filter_map]
  rfl

theorem samePorts_register (same : SamePorts f y) {member : Member} {i : Nat}
    (registry : z.registry = y.registry.filter (fun x => !(x.1 == member.port)) ++
      [(member.port, i)]) : SamePorts (f.register member) z := by
  rw [SamePorts, registry, register, List.map_append, List.map_append, ports_filter, ports_filter,
    same]
  rfl

/-! ## The steps of one creation -/

/-- A yard with one more creation. -/
def joined (y : Yard) (address : Net.Ip) (progress : Progress) : Yard :=
  { y with creations := y.creations ++ [{ address, progress }] }

/-- A yard where a proxy that is to come has a port. -/
def housed (y : Yard) (address : Net.Ip) (port : UInt16) : Yard :=
  { y with sockets := y.sockets ++ [⟨address, port, y.creations.length⟩] }

/-- A yard with a proxy that was created on a port. -/
def settled (y : Yard) (address : Net.Ip) (port : UInt16) : Yard :=
  let y := housed y address port
  joined { y with
      registry := y.registry.filter (fun x => !(x.1 == port)) ++ [(port, y.creations.length)] }
    address (.created port)

/-- An event is a step of a creation. -/
def IsStep (i : Nat) : Event → Prop
  | .advance j _ | .fail j => j = i
  | .create .. | .delete _ | .stop _ => False

/-- A creation that has joined a yard gets somewhere by steps of its own. -/
def Leads (y : Yard) (address : Net.Ip) (progress : Progress) (after : Yard) : Prop :=
  ∃ steps, (∀ e ∈ steps, IsStep y.creations.length e) ∧
    (joined y address progress).run steps = after

theorem Leads.step {progress : Progress} {e : Event} (own : IsStep y.creations.length e)
    {next : Progress} (moved : (joined y address progress).step e = joined y address next)
    (onward : Leads y address next z) : Leads y address progress z := by
  obtain ⟨steps, alone, rfl⟩ := onward
  refine ⟨e :: steps, List.forall_mem_cons.mpr ⟨own, alone⟩, ?_⟩
  rw [Yard.run, List.foldl_cons, moved]
  rfl

theorem leads_here (y : Yard) (address : Net.Ip) (progress : Progress) :
    Leads y address progress (joined y address progress) :=
  ⟨[], nofun, rfl⟩

theorem joined_last (y : Yard) (address : Net.Ip) (progress : Progress) :
    (joined y address progress).creations[y.creations.length]? = some ⟨address, progress⟩ := by
  simp [joined]

theorem setProgress_joined (y : Yard) (address : Net.Ip) (progress next : Progress) :
    (joined y address progress).setProgress y.creations.length next = joined y address next := by
  simp [joined, Yard.setProgress, List.modify_eq_take_cons_drop]

theorem looks_at_port (y : Yard) (address : Net.Ip) (port : UInt16) :
    (joined y address (.looking (.port port))).step (.advance y.creations.length 0) =
      joined y address
        (if port ≠ 0 ∧ (y.get? port).isSome then .failed else .taking (.port port)) := by
  simp only [Yard.step, Yard.advance, joined_last, setProgress_joined]
  exact (apply_ite (joined y address) ..).symm

theorem looks_at_first (y : Yard) (address : Net.Ip) (port : UInt16) (rest : List UInt16) :
    (joined y address (.looking (.first (port :: rest)))).step (.advance y.creations.length 0) =
      joined y address
        (if (y.get? port).isSome then .looking (.first rest)
          else .taking (.first (port :: rest))) := by
  simp only [Yard.step, Yard.advance, joined_last, setProgress_joined]
  exact (apply_ite (joined y address) ..).symm

theorem looks_at_none :
    (joined y address (.looking (.first []))).step (.advance y.creations.length 0) =
      joined y address .failed := by
  simp only [Yard.step, Yard.advance, joined_last, setProgress_joined]

theorem take_joined (progress : Progress) :
    (joined y address progress).take y.creations.length address port =
      joined (housed y address port) address (.taken port) :=
  setProgress_joined (housed y address port) ..

/-- What becomes of a creation that is given a port, or none. -/
def receives (y : Yard) (address : Net.Ip) (otherwise : Progress) (port : UInt16) : Yard :=
  if port = 0 ∨ y.inUse address port then joined y address otherwise
  else joined (housed y address port) address (.taken port)

theorem takes_port (chosen : UInt16) :
    (joined y address (.taking (.port port))).step (.advance y.creations.length chosen) =
      receives y address .failed (Yard.given port chosen) := by
  simp only [Yard.step, Yard.advance, joined_last, setProgress_joined, take_joined]
  rfl

theorem takes_first (rest : List UInt16) (chosen : UInt16) :
    (joined y address (.taking (.first (port :: rest)))).step (.advance y.creations.length chosen) =
      receives y address (.looking (.first rest)) (Yard.given port chosen) := by
  simp only [Yard.step, Yard.advance, joined_last, setProgress_joined, take_joined]
  rfl

theorem registers_last :
    (joined (housed y address port) address (.taken port)).step (.advance y.creations.length 0) =
      settled y address port := by
  have last := joined_last (housed y address port) address (.taken port)
  change (joined (housed y address port) address (.taken port)).advance
    (housed y address port).creations.length 0 = _
  simp only [Yard.advance, last]
  exact setProgress_joined { housed y address port with
    registry := y.registry.filter (fun x => !(x.1 == port)) ++ [(port, y.creations.length)] } ..

theorem fails_looking (wish : Wish) :
    (joined y address (.looking wish)).step (.fail y.creations.length) =
      joined y address .failed := by
  simp only [Yard.step, Yard.abandon, joined_last, Option.map_some, setProgress_joined]

theorem fails_taking (wish : Wish) :
    (joined y address (.taking wish)).step (.fail y.creations.length) =
      joined y address .failed := by
  simp only [Yard.step, Yard.abandon, joined_last, Option.map_some, setProgress_joined]

/-! ## Whole creations -/

/-- What a creation comes to when its order does. -/
inductive ComesTo (y : Yard) (address : Net.Ip) : Except Failure Member → Yard → Prop
  | created {member : Member} (own : member.address = address) :
    ComesTo y address (.ok member) (settled y address member.port)
  | failed {e : Failure} : ComesTo y address (.error e) (joined y address .failed)

/-- A creation gets by steps of its own to what its order comes to. -/
def Follows (y : Yard) (address : Net.Ip) (progress : Progress)
    (outcome : Except Failure Member) : Prop :=
  ∃ z, Leads y address progress z ∧ ComesTo y address outcome z

variable {outcome : Except Failure Member} {progress next : Progress}

theorem Follows.step {e : Event}
    (moved : (joined y address progress).step e = joined y address next)
    (own : IsStep y.creations.length e) (onward : Follows y address next outcome) :
    Follows y address progress outcome :=
  onward.imp fun _ ⟨leads, comes⟩ => ⟨leads.step own moved, comes⟩

theorem follows_failed (y : Yard) (address : Net.Ip) (e : Failure) :
    Follows y address .failed (.error e) :=
  ⟨_, leads_here .., .failed⟩

/-- A creation that is given a port registers its proxy there. -/
theorem follows_given (serves : Serves m y address) (given : m.bind address port = .listening q)
    {otherwise : Progress} (g : Gateway)
    (moved : (joined y address progress).step (.advance y.creations.length q) =
      receives y address otherwise (Yard.given port q)) :
    Follows y address progress (.ok (started address (g, q))) := by
  obtain ⟨proper, asked⟩ := serves.asked port q given
  have same : Yard.given port q = q := by
    rw [Yard.given]
    split
    case isTrue => rfl
    case isFalse own => exact (asked fun zero => own (.inl zero)).symm
  have taken : receives y address otherwise q = joined (housed y address q) address (.taken q) :=
    if_neg (not_or.mpr ⟨proper, Bool.eq_false_iff.mp (serves.unused port q given)⟩)
  refine ⟨settled y address q, ?_, .created rfl⟩
  refine ⟨[.advance y.creations.length q, .advance y.creations.length 0], ?_, ?_⟩
  · exact List.forall_mem_cons.mpr ⟨rfl, List.forall_mem_singleton.mpr rfl⟩
  · rw [Yard.run, List.foldl_cons, List.foldl_cons, List.foldl_nil, moved, same, taken]
    exact registers_last

/-- One that is given none goes on without. -/
theorem follows_refused {otherwise : Progress}
    (moved : (joined y address progress).step (.advance y.creations.length 0) =
      receives y address otherwise (Yard.given port 0))
    (onward : Follows y address otherwise outcome) : Follows y address progress outcome := by
  have none : Yard.given port 0 = 0 := if_pos (.inr rfl)
  refine .step (moved.trans ?_) rfl onward
  rw [none, receives, if_pos (.inl rfl)]

/-- What a start comes to. -/
theorem start_comes (m : Machine) (s : Settings) (place : Place) :
    ∃ m' r, start m s place = (m', r) ∧ m'.bind = m.bind ∧
      ((∃ g q, r = .ok (g, q) ∧ m.bind place.address place.port = .listening q) ∨
        (∃ text, r = .error (.inUse text)) ∨ ∃ e, r = .error e ∧ ∀ text, e ≠ .inUse text) := by
  cases comes : start m s place with
  | mk m' r =>
    refine ⟨m', r, rfl, start_binds comes, ?_⟩
    cases r with
    | ok made => exact .inl ⟨made.1, made.2, rfl, bind_of_started (congrArg Prod.snd comes)⟩
    | error e =>
      by_cases inUse : ∃ text, e = .inUse text
      · obtain ⟨text, rfl⟩ := inUse
        exact .inr (.inl ⟨text, rfl⟩)
      · exact .inr (.inr ⟨e, rfl, not_exists.mp inUse⟩)

/-- A creation that asks for a port. -/
theorem follows_port (same : SamePorts f y) (serves : Serves m y address) :
    Follows y address (.looking (.port port)) (f.startOn m s { address, port, relay }).2 := by
  by_cases there : port ≠ 0 ∧ (y.get? port).isSome
  · have refused : f.startOn m s { address, port, relay } = (m, .error (.registered port)) := by
      rw [← registered_iff same] at there
      exact if_pos there
    have moved := looks_at_port y address port
    rw [if_pos there] at moved
    rw [refused]
    exact .step moved rfl (follows_failed ..)
  · have onward : f.startOn m s { address, port, relay } =
        answered address (start m s { address, port, relay }) := by
      rw [← registered_iff same] at there
      rw [startOn, if_neg there]
      cases start m s { address, port, relay } with
      | mk m' r => cases r <;> rfl
    have moved := looks_at_port y address port
    rw [if_neg there] at moved
    refine .step moved rfl ?_
    obtain ⟨m', r, comes, -, ⟨g, q, rfl, given⟩ | ⟨text, rfl⟩ | ⟨e, rfl, -⟩⟩ :=
      start_comes m s { address, port, relay }
    all_goals rw [onward, comes]
    · exact follows_given serves given g (takes_port q)
    · exact follows_refused (takes_port 0) (follows_failed ..)
    · exact .step (fails_taking _) rfl (follows_failed ..)

/-- A creation that takes the first free port of a row. -/
theorem follows_first (same : SamePorts f y) (serves : Serves m y address) (none : Failure)
    (ports : List UInt16) :
    Follows y address (.looking (.first ports))
      (f.startOnFirst s address relay none ports m).2 := by
  induction ports generalizing m with
  | nil => exact .step looks_at_none rfl (follows_failed ..)
  | cons port rest ih =>
    have moved := looks_at_first y address port rest
    rw [← registered_iff same] at moved
    rw [startOnFirst]
    split at moved
    case isTrue there =>
      rw [if_pos there]
      exact .step moved rfl (ih serves)
    case isFalse absent =>
      rw [if_neg absent]
      refine .step moved rfl ?_
      obtain ⟨m', r, comes, kept, ⟨g, q, rfl, given⟩ | ⟨text, rfl⟩ | ⟨e, rfl, other⟩⟩ :=
        start_comes m s { address, port, relay }
      all_goals rw [comes]
      · exact follows_given serves given g (takes_first rest q)
      · exact follows_refused (takes_first rest 0) (ih (serves.rebound kept))
      · have fails : Follows y address (.taking (.first (port :: rest))) (.error (.start e)) :=
          .step (fails_taking _) rfl (follows_failed ..)
        cases e with
        | inUse text => exact absurd rfl (other text)
        | _ => exact fails

theorem comes_entered (same : SamePorts f y) {search : Machine × Except Failure Member}
    (comes : ComesTo y address search.2 z) :
    ComesTo y address (entered f search).2.2 z ∧ SamePorts (entered f search).2.1 z := by
  obtain ⟨m', r⟩ := search
  cases comes with
  | created own => exact ⟨.created own, samePorts_register same rfl⟩
  | failed => exact ⟨.failed, same⟩

/-- The ports that an order may take. -/
def wishOf (f : Fleet) (o : Order) : Wish :=
  match o.port with
  | some port => .port port
  | none =>
    .first (range (settingsOf f o).listening.firstPort (settingsOf f o).listening.lastPort)

/-- The steps of a creation, when nothing comes in between, make of a yard what its order makes of
the fleet with the same ports. -/
theorem creation_alone (same : SamePorts f y) (serves : Serves m y (addressOf f o)) :
    ∃ steps, (∀ e ∈ steps, IsStep y.creations.length e) ∧
      let z := y.run (.create (addressOf f o) (wishOf f o) :: steps)
      ComesTo y (addressOf f o) (f.create m o).2.2 z ∧ SamePorts (f.create m o).2.1 z := by
  have follows : ∃ search, f.create m o = entered f search ∧
      Follows y (addressOf f o) (.looking (wishOf f o)) search.2 := by
    cases asked : o.port with
    | some port =>
      have wish : wishOf f o = .port port := by simp only [wishOf, asked]
      refine ⟨_, by simp only [create, asked]; rfl, wish ▸ follows_port same serves⟩
    | none =>
      have wish : wishOf f o = .first (range (settingsOf f o).listening.firstPort
          (settingsOf f o).listening.lastPort) := by simp only [wishOf, asked]
      refine ⟨_, create_unasked asked m, ?_⟩
      rw [startOnFree, wish]
      split
      · exact .step (fails_looking _) rfl (follows_failed ..)
      · exact .step (fails_looking _) rfl (follows_failed ..)
      · exact follows_first same serves _ _
  obtain ⟨search, whole, z, ⟨steps, alone, after⟩, comes⟩ := follows
  refine ⟨steps, alone, ?_⟩
  have whole_run : y.run (.create (addressOf f o) (wishOf f o) :: steps) = z := after
  rw [whole, whole_run]
  exact comes_entered same comes

/-- The first step of a deletion takes the same port from both. -/
theorem deletion_alone (same : SamePorts f y) (port : UInt16) :
    SamePorts (f.delete port).1 (y.step (.delete port)) ∧
      (f.delete port).2 = (y.get? port).isSome := by
  refine ⟨?_, registered_iff same port⟩
  change (f.members.filter _).map Prod.fst = (y.registry.filter _).map Prod.fst
  rw [ports_filter, ports_filter, same]

end Wirelog.CreationSteps
