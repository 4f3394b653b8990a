import Wirelog.Fleet.Overlap
import Wirelog.Proofs.TableLaws

/-! What one event does to a fleet while calls overlap. A creation takes its port from the system
before it registers, and a deleted proxy gives its port back after it has left the register, so
every proxy on its way in or registered has its port to itself, as far as one address goes. The
register knows nothing of addresses and plays no part in this. -/
namespace Wirelog.YardLaws
open Fleet.Overlap TableLaws

variable {y z : Yard} {i j : Nat} {a : Net.Ip} {port : UInt16}

/-! ## Creations -/

/-- The port of a creation that has taken one. -/
def portOf : Progress → Option UInt16
  | .taken port | .created port => some port
  | .looking _ | .taking _ | .failed => none

/-- What becomes of a fleet when a creation goes on, short of registering. -/
inductive Moves (y : Yard) (i : Nat) : Yard → Prop where
  | rests : Moves y i y
  | goes {c : Creation} {next : Progress} (there : y.creations[i]? = some c)
      (portless : portOf c.progress = none) (still : portOf next = none) :
      Moves y i (y.setProgress i next)
  | takes {c : Creation} {port : UInt16} (there : y.creations[i]? = some c)
      (portless : portOf c.progress = none) (free : y.inUse c.address port = false) :
      Moves y i (y.take i c.address port)

theorem advance_taken (taken : y.creations[i]? = some ⟨a, .taken port⟩) (chosen : UInt16) :
    y.advance i chosen = y.register i port := by
  simp only [Yard.advance, taken]

/-- A creation that has taken a port registers, and any other one does not. -/
theorem advance_cases (y : Yard) (i : Nat) (chosen : UInt16) :
    (∃ a port, y.creations[i]? = some ⟨a, .taken port⟩ ∧ y.advance i chosen = y.register i port) ∨
      (∀ a port, y.creations[i]? ≠ some ⟨a, .taken port⟩) ∧ Moves y i (y.advance i chosen) := by
  cases there : y.creations[i]? with
  | none =>
    simp only [Yard.advance, there]
    exact .inr ⟨nofun, .rests⟩
  | some c =>
    obtain ⟨a, progress⟩ := c
    have goes {next : Progress} (portless : portOf progress = none) (still : portOf next = none) :
        Moves y i (y.setProgress i next) :=
      .goes there portless still
    have takes {port : UInt16} (portless : portOf progress = none)
        (free : ¬ (port = 0 ∨ y.inUse a port)) : Moves y i (y.take i a port) :=
      .takes there portless (Bool.eq_false_iff.mpr fun used => free (.inr used))
    cases progress with
    | looking wish =>
      refine .inr ⟨nofun, ?_⟩
      rcases wish with port | ⟨_ | ⟨port, rest⟩⟩ <;> simp only [Yard.advance, there]
      · split <;> exact goes rfl rfl
      · exact goes rfl rfl
      · split <;> exact goes rfl rfl
    | taking wish =>
      refine .inr ⟨nofun, ?_⟩
      rcases wish with port | ⟨_ | ⟨port, rest⟩⟩ <;> simp only [Yard.advance, there]
      · split
        · exact goes rfl rfl
        · exact takes rfl ‹_›
      · exact goes rfl rfl
      · split
        · exact goes rfl rfl
        · exact takes rfl ‹_›
    | taken port => exact .inl ⟨a, port, rfl, advance_taken there chosen⟩
    | created port | failed =>
      simp only [Yard.advance, there]
      exact .inr ⟨nofun, .rests⟩

theorem moves_abandon (y : Yard) (i : Nat) : Moves y i (y.abandon i) := by
  cases there : y.creations[i]? with
  | none =>
    simp only [Yard.abandon, there, Option.map_none]
    exact .rests
  | some c =>
    obtain ⟨a, progress⟩ := c
    simp only [Yard.abandon, there, Option.map_some]
    cases progress with
    | looking wish => exact .goes there rfl rfl
    | taking wish => exact .goes there rfl rfl
    | taken port => exact .rests
    | created port => exact .rests
    | failed => exact .rests

theorem creation_setProgress (y : Yard) (i j : Nat) (next : Progress) :
    (y.setProgress i next).creations[j]? =
      if i = j then (y.creations[j]?).map fun c => { c with progress := next }
      else y.creations[j]? := by
  rw [Yard.setProgress, List.getElem?_modify]
  split <;> simp

theorem creation_register (y : Yard) (i j : Nat) (port : UInt16) :
    (y.register i port).creations[j]? =
      if i = j then (y.creations[j]?).map fun c => { c with progress := .created port }
      else y.creations[j]? :=
  creation_setProgress _ i j _

/-- A creation that goes on has the port that it had, or one that it takes now. -/
theorem creation_moves {c : Creation} (moves : Moves y i z) (there : z.creations[j]? = some c) :
    y.creations[j]? = some c ∨ portOf c.progress = none ∨
      ∃ port, c.progress = .taken port ∧ ⟨c.address, port, j⟩ ∈ z.sockets := by
  cases moves with
  | rests => exact .inl there
  | goes before portless still =>
    rw [creation_setProgress] at there
    split at there
    · subst i
      simp only [before, Option.map_some, Option.some.injEq] at there
      subst there
      exact .inr (.inl still)
    · exact .inl there
  | takes before portless free =>
    rw [Yard.take, creation_setProgress] at there
    split at there
    · subst i
      simp only [before, Option.map_some, Option.some.injEq] at there
      subst there
      exact .inr (.inr ⟨_, rfl, by simp [Yard.take, Yard.setProgress]⟩)
    · exact .inl there

/-- A creation that is over stays as it is. -/
theorem created_moves (moves : Moves y i z)
    (created : y.creations[j]? = some ⟨a, .created port⟩) :
    z.creations[j]? = some ⟨a, .created port⟩ := by
  cases moves with
  | rests => exact created
  | goes there portless | takes there portless =>
    have other : i ≠ j := by
      rintro rfl
      cases there.symm.trans created
      cases portless
    simpa [Yard.take, creation_setProgress, other] using created

theorem created_before (moves : Moves y i z)
    (created : z.creations[j]? = some ⟨a, .created port⟩) :
    y.creations[j]? = some ⟨a, .created port⟩ := by
  rcases creation_moves moves created with before | portless | ⟨other, same, -⟩
  · exact before
  · cases portless
  · cases same

theorem created_stays (e : Event) (created : y.creations[i]? = some ⟨a, .created port⟩) :
    (y.step e).creations[i]? = some ⟨a, .created port⟩ := by
  cases e with
  | create address wish =>
    have bound := (List.getElem?_eq_some_iff.mp created).1
    exact (List.getElem?_append_left bound).trans created
  | advance j chosen =>
    rcases advance_cases y j chosen with ⟨b, other, taken, registers⟩ | ⟨-, moves⟩
    · have apart : j ≠ i := by
        rintro rfl
        cases taken.symm.trans created
      rw [Yard.step, registers, creation_register, if_neg apart, created]
    · exact created_moves moves created
  | fail j => exact created_moves (moves_abandon y j) created
  | delete port => exact created
  | stop owner =>
    simp only [Yard.step]
    split <;> exact created

theorem registry_moves (moves : Moves y i z) : z.registry = y.registry := by
  cases moves <;> rfl

theorem stopping_moves (moves : Moves y i z) : z.stopping = y.stopping := by
  cases moves <;> rfl

theorem sockets_moves (moves : Moves y i z) : y.sockets ⊆ z.sockets := by
  cases moves with
  | rests | goes => exact List.Subset.refl _
  | takes => exact List.subset_append_left _ _

/-! ## The register -/

theorem get_moves (moves : Moves y i z) (port : UInt16) : z.get? port = y.get? port := by
  rw [Yard.get?, Yard.get?, registry_moves moves]

theorem get_register (y : Yard) (i : Nat) (port other : UInt16) :
    (y.register i port).get? other = if port = other then some i else y.get? other := by
  simp only [Yard.register, Yard.setProgress, Yard.get?, find_put]
  split <;> rfl

theorem get_delete (y : Yard) (port other : UInt16) :
    (y.step (.delete port)).get? other = if port = other then none else y.get? other := by
  simp only [Yard.step, Yard.get?, find_drop]
  split <;> rfl

/-! ## What holds all the time -/

/-- What holds of a fleet at any time. -/
structure Orderly (y : Yard) : Prop where
  /-- Each port stands in the register once. -/
  distinct : (y.registry.map Prod.fst).Nodup
  /-- A proxy in the register is one that was created on its port. -/
  registered : ∀ port i, y.get? port = some i → ∃ a, y.creations[i]? = some ⟨a, .created port⟩
  /-- One that is to give its port back was created as well. -/
  leaving : ∀ i ∈ y.stopping, ∃ a port, y.creations[i]? = some ⟨a, .created port⟩
  /-- A creation that took a port has it. -/
  housed : ∀ i a port, y.creations[i]? = some ⟨a, .taken port⟩ → ⟨a, port, i⟩ ∈ y.sockets
  /-- No two proxies have one port of one address. -/
  exclusive : ∀ s ∈ y.sockets, ∀ t ∈ y.sockets, s.address = t.address → s.port = t.port →
    s.owner = t.owner

theorem orderly_blank : Orderly {} :=
  ⟨List.nodup_nil, nofun, nofun, nofun, nofun⟩

/-- A port that is free when it is taken stays with the one that takes it. -/
private theorem exclusive_moves (orderly : Orderly y) (moves : Moves y i z) :
    ∀ s ∈ z.sockets, ∀ t ∈ z.sockets, s.address = t.address → s.port = t.port →
      s.owner = t.owner := by
  cases moves with
  | rests | goes => exact orderly.exclusive
  | @takes c port there portless free =>
    have untaken (s : Socket) (member : s ∈ y.sockets) (here : s.address = c.address) :
        s.port ≠ port := by
      rintro rfl
      refine Bool.eq_false_iff.mp free (List.any_eq_true.mpr ⟨s, member, ?_⟩)
      simp only [here, beq_self_eq_true, Bool.and_self]
    intro s first t second same alike
    rcases List.mem_append.mp first with first | first <;>
      rcases List.mem_append.mp second with second | second
    · exact orderly.exclusive s first t second same alike
    · cases List.mem_singleton.mp second
      exact absurd alike (untaken s first same)
    · cases List.mem_singleton.mp first
      exact absurd alike.symm (untaken t second same.symm)
    · cases List.mem_singleton.mp first
      cases List.mem_singleton.mp second
      rfl

theorem orderly_moves (orderly : Orderly y) (moves : Moves y i z) : Orderly z := by
  constructor
  case distinct => exact registry_moves moves ▸ orderly.distinct
  case registered =>
    intro port j found
    obtain ⟨a, ended⟩ := orderly.registered port j (get_moves moves port ▸ found)
    exact ⟨a, created_moves moves ended⟩
  case leaving =>
    intro j member
    obtain ⟨a, port, ended⟩ := orderly.leaving j (stopping_moves moves ▸ member)
    exact ⟨a, port, created_moves moves ended⟩
  case housed =>
    intro j a port taken
    rcases creation_moves moves taken with before | portless | ⟨other, same, has⟩
    · exact sockets_moves moves (orderly.housed j a port before)
    · cases portless
    · cases same
      exact has
  case exclusive => exact exclusive_moves orderly moves

theorem orderly_register (orderly : Orderly y)
    (taken : y.creations[i]? = some ⟨a, .taken port⟩) : Orderly (y.register i port) := by
  have stays {j : Nat} {b : Net.Ip} {other : UInt16}
      (ended : y.creations[j]? = some ⟨b, .created other⟩) :
      (y.register i port).creations[j]? = some ⟨b, .created other⟩ :=
    advance_taken taken 0 ▸ created_stays (.advance i 0) ended
  constructor
  case distinct => exact nodup_keys_put port i orderly.distinct
  case registered =>
    intro other j found
    rw [get_register] at found
    split at found
    · subst other
      cases found
      exact ⟨a, by rw [creation_register, if_pos rfl, taken, Option.map_some]⟩
    · obtain ⟨b, ended⟩ := orderly.registered other j found
      exact ⟨b, stays ended⟩
  case leaving =>
    intro j member
    obtain ⟨b, other, ended⟩ := orderly.leaving j member
    exact ⟨b, other, stays ended⟩
  case housed =>
    intro j b other waits
    rw [creation_register] at waits
    split at waits
    · subst j
      simp only [taken, Option.map_some, Option.some.injEq, Creation.mk.injEq, reduceCtorEq,
        and_false] at waits
    · exact orderly.housed j b other waits
  case exclusive => exact orderly.exclusive

theorem orderly_delete (orderly : Orderly y) (port : UInt16) :
    Orderly (y.step (.delete port)) := by
  constructor
  case distinct => exact nodup_keys_filter _ orderly.distinct
  case registered =>
    intro other i found
    rw [get_delete] at found
    split at found
    · cases found
    · exact orderly.registered other i found
  case leaving =>
    intro i member
    rcases List.mem_append.mp member with member | member
    · exact orderly.leaving i member
    · obtain ⟨a, ended⟩ := orderly.registered port i (Option.mem_toList.mp member)
      exact ⟨a, port, ended⟩
  case housed => exact orderly.housed
  case exclusive => exact orderly.exclusive

theorem orderly_stop (orderly : Orderly y) (owner : Nat) : Orderly (y.step (.stop owner)) := by
  simp only [Yard.step]
  split
  · rename_i leaves
    constructor
    case distinct => exact orderly.distinct
    case registered => exact orderly.registered
    case leaving => exact fun i member => orderly.leaving i (List.mem_of_mem_filter member)
    case housed =>
      intro i a port taken
      -- The one that gives its port back is over, and this one is still to register.
      obtain ⟨b, other, ended⟩ := orderly.leaving owner (List.contains_iff_mem.mp leaves)
      have apart : i ≠ owner := by
        rintro rfl
        cases taken.symm.trans ended
      exact List.mem_filter.mpr ⟨orderly.housed i a port taken, by simpa using apart⟩
    case exclusive =>
      exact fun s first t second => orderly.exclusive s (List.mem_of_mem_filter first) t
        (List.mem_of_mem_filter second)
  · exact orderly

theorem orderly_create (orderly : Orderly y) (address : Net.Ip) (wish : Wish) :
    Orderly (y.step (.create address wish)) := by
  constructor
  case distinct => exact orderly.distinct
  case registered =>
    intro port i found
    obtain ⟨a, ended⟩ := orderly.registered port i found
    exact ⟨a, created_stays _ ended⟩
  case leaving =>
    intro i member
    obtain ⟨a, port, ended⟩ := orderly.leaving i member
    exact ⟨a, port, created_stays _ ended⟩
  case housed =>
    intro i a port taken
    refine orderly.housed i a port ?_
    simp only [Yard.step, List.getElem?_append] at taken
    split at taken
    · exact taken
    · rw [List.getElem?_singleton] at taken
      split at taken <;> cases taken
  case exclusive => exact orderly.exclusive

theorem orderly_step (orderly : Orderly y) (e : Event) : Orderly (y.step e) := by
  cases e with
  | create address wish => exact orderly_create orderly address wish
  | advance i chosen =>
    rcases advance_cases y i chosen with ⟨a, port, taken, registers⟩ | ⟨-, moves⟩
    · rw [Yard.step, registers]
      exact orderly_register orderly taken
    · exact orderly_moves orderly moves
  | fail i => exact orderly_moves orderly (moves_abandon y i)
  | delete port => exact orderly_delete orderly port
  | stop owner => exact orderly_stop orderly owner

end Wirelog.YardLaws
