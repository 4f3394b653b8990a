import Wirelog.Proofs.CreationSteps
import Wirelog.Proofs.Standing
import Wirelog.Proofs.YardLaws

/-! Who stands in the register of a fleet while calls overlap. A creation that asks for one port
looks first whether a proxy stands there, and all creations take their ports from the system before
they register; but the system knows ports by address and the register does not, so a proxy can come
to stand in the place of one that listens on the same port of another address. It is the only way in
which a proxy is lost from the register before its port is deleted. -/
namespace Wirelog.RegisteredProxies
open Fleet.Overlap YardLaws Standing CreationSteps FreePorts

variable {y : Yard} {past : List Event} {port : UInt16} {i j : Nat} {e : Event}

/-- That a creation registers its proxy on a port. -/
def Registers (y : Yard) (port : UInt16) (i : Nat) : Event → Prop
  | .advance j _ => j = i ∧ ∃ a, y.creations[i]? = some ⟨a, .taken port⟩
  | .create .. | .fail _ | .delete _ | .stop _ => False

/-- That the proxy on a port leaves the register, for good or for another one. -/
def Vacates (y : Yard) (port : UInt16) (e : Event) : Prop :=
  e = .delete port ∨ ∃ i, Registers y port i e

/-! ## One event -/

/-- A creation that goes on registers its proxy, or moves on without. -/
theorem registers_or_moves (y : Yard) (j : Nat) (chosen : UInt16) :
    (∃ port, (∀ other i, Registers y other i (.advance j chosen) ↔ port = other ∧ j = i) ∧
        (∃ a, y.creations[j]? = some ⟨a, .taken port⟩) ∧
        y.step (.advance j chosen) = y.register j port) ∨
      (∀ other i, ¬ Registers y other i (.advance j chosen)) ∧
        Moves y j (y.step (.advance j chosen)) := by
  rcases advance_cases y j chosen with ⟨a, port, taken, registers⟩ | ⟨waits, moves⟩
  · refine .inl ⟨port, fun other i => ⟨?_, ?_⟩, ⟨a, taken⟩, registers⟩
    · rintro ⟨rfl, b, also⟩
      cases taken.symm.trans also
      exact ⟨rfl, rfl⟩
    · rintro ⟨rfl, rfl⟩
      exact ⟨rfl, a, taken⟩
  · refine .inr ⟨fun other i => ?_, moves⟩
    rintro ⟨rfl, a, taken⟩
    exact waits a other taken

/-- After an event, the proxy on a port is the one that it registers there, or the one that was
there and stays. -/
theorem get_step (y : Yard) (e : Event) (port : UInt16) (i : Nat) :
    (y.step e).get? port = some i ↔
      Registers y port i e ∨ y.get? port = some i ∧ ¬ Vacates y port e := by
  cases e with
  | create address wish => simp [Registers, Vacates, Yard.step, Yard.get?]
  | advance j chosen =>
    rcases registers_or_moves y j chosen with ⟨own, registers, -, after⟩ | ⟨waits, moves⟩
    · rw [after, get_register]
      split <;> simp [Vacates, *]
    · simp [Vacates, waits, get_moves moves]
  | fail j => simp [Registers, Vacates, Yard.step, get_moves (moves_abandon y j)]
  | delete other =>
    rw [get_delete]
    split <;> simp [Registers, Vacates, *]
  | stop owner =>
    simp only [Yard.step]
    split <;> simp [Registers, Vacates, Yard.get?]

/-- A creation is over with a port after an event that registers it there, or when it was over
before. -/
theorem created_step (y : Yard) (e : Event) (port : UInt16) (i : Nat) :
    (∃ a, (y.step e).creations[i]? = some ⟨a, .created port⟩) ↔
      Registers y port i e ∨ ∃ a, y.creations[i]? = some ⟨a, .created port⟩ := by
  constructor
  · rintro ⟨a, ended⟩
    cases e with
    | create address wish =>
      simp only [Yard.step, List.getElem?_append] at ended
      split at ended
      · exact .inr ⟨a, ended⟩
      · rw [List.getElem?_singleton] at ended
        split at ended <;> cases ended
    | advance j chosen =>
      rcases registers_or_moves y j chosen with ⟨own, registers, ⟨b, taken⟩, after⟩ | ⟨-, moves⟩
      · rw [after, creation_register] at ended
        split at ended
        · subst j
          rw [taken] at ended
          cases ended
          exact .inl ((registers port i).mpr ⟨rfl, rfl⟩)
        · exact .inr ⟨a, ended⟩
      · exact .inr ⟨a, created_before moves ended⟩
    | fail j => exact .inr ⟨a, created_before (moves_abandon y j) ended⟩
    | delete other => exact .inr ⟨a, ended⟩
    | stop owner =>
      simp only [Yard.step] at ended
      split at ended <;> exact .inr ⟨a, ended⟩
  · rintro (registers | ⟨a, ended⟩)
    · cases e with
      | advance j chosen =>
        obtain ⟨rfl, a, taken⟩ := registers
        refine ⟨a, ?_⟩
        rw [Yard.step, advance_taken taken, creation_register, if_pos rfl, taken, Option.map_some]
      | _ => cases registers
    · exact ⟨a, created_stays e ended⟩

/-- The ports of proxies stay taken while no event gives them back. -/
theorem housed_step {s : Socket} (there : s ∈ y.sockets) (stays : s.owner ∉ y.stopping)
    (e : Event) : s ∈ (y.step e).sockets := by
  cases e with
  | create address wish => exact there
  | advance j chosen =>
    rcases registers_or_moves y j chosen with ⟨own, -, -, after⟩ | ⟨-, moves⟩
    · rw [after]
      exact there
    · exact sockets_moves moves there
  | fail j => exact sockets_moves (moves_abandon y j) there
  | delete port => exact there
  | stop owner =>
    simp only [Yard.step]
    split
    · rename_i leaves
      have apart : s.owner ≠ owner := by
        rintro rfl
        exact stays (List.contains_iff_mem.mp leaves)
      exact List.mem_filter.mpr ⟨there, by simpa using apart⟩
    · exact there

/-- Only the deletion of its port has a proxy give the port back. -/
theorem stopping_step (orderly : Orderly y) {a : Net.Ip}
    (ended : y.creations[i]? = some ⟨a, .created port⟩) (stays : i ∉ y.stopping)
    (spared : e ≠ .delete port) : i ∉ (y.step e).stopping := by
  cases e with
  | create address wish => exact stays
  | advance j chosen =>
    rcases registers_or_moves y j chosen with ⟨own, -, -, after⟩ | ⟨-, moves⟩
    · rw [after]
      exact stays
    · rwa [stopping_moves moves]
  | fail j => rwa [Yard.step, stopping_moves (moves_abandon y j)]
  | delete other =>
    rintro member
    rcases List.mem_append.mp member with member | member
    · exact stays member
    · obtain ⟨b, also⟩ := orderly.registered other i (Option.mem_toList.mp member)
      cases ended.symm.trans also
      exact spared rfl
  | stop owner =>
    simp only [Yard.step]
    split
    · exact fun member => stays (List.mem_of_mem_filter member)
    · exact stays

/-! ## Runs -/

/-- That a proxy was created on a port, and that the port was not deleted since. -/
def Created (past : List Event) (port : UInt16) (i : Nat) : Prop :=
  Stands (fun before e => Registers (Yard.run {} before) port i e)
    (fun _ e => e = .delete port) past

theorem run_concat (y : Yard) (past : List Event) (e : Event) :
    y.run (past ++ [e]) = (y.run past).step e := by
  simp only [Yard.run, List.foldl_append, List.foldl_cons, List.foldl_nil]

theorem orderly_run (past : List Event) : Orderly (Yard.run {} past) := by
  induction past using List.reverseRecOn with
  | nil => exact orderly_blank
  | append_singleton past e ih =>
    rw [run_concat]
    exact orderly_step ih e

/-- That a proxy listens on a port of an address. -/
structure Listens (y : Yard) (port : UInt16) (i : Nat) (a : Net.Ip) : Prop where
  /-- It was created there. -/
  ended : y.creations[i]? = some ⟨a, .created port⟩
  /-- It has the port. -/
  housed : ⟨a, port, i⟩ ∈ y.sockets
  /-- It is not about to give it back. -/
  stays : i ∉ y.stopping

/-- A proxy that registers listens from then on. -/
theorem listens_register (orderly : Orderly y) (registers : Registers y port i e) :
    ∃ a, Listens (y.step e) port i a := by
  cases e with
  | advance j chosen =>
    obtain ⟨rfl, b, taken⟩ := registers
    have after : y.step (.advance j chosen) = y.register j port := advance_taken taken chosen
    refine ⟨b, ?_, ?_, ?_⟩
    · rw [after, creation_register, if_pos rfl, taken, Option.map_some]
    · rw [after]
      exact orderly.housed j b port taken
    · rw [after]
      intro leaves
      obtain ⟨c, other, also⟩ := orderly.leaving j leaves
      cases taken.symm.trans also
  | _ => cases registers

theorem listens_step (orderly : Orderly y) {a : Net.Ip} (listens : Listens y port i a)
    (spared : e ≠ .delete port) : Listens (y.step e) port i a where
  ended := created_stays e listens.ended
  housed := housed_step listens.housed listens.stays e
  stays := stopping_step orderly listens.ended listens.stays spared

/-- A proxy listens from its creation until its port is deleted. -/
theorem listens_of_created (created : Created past port i) :
    ∃ a, Listens (Yard.run {} past) port i a := by
  induction past using List.reverseRecOn with
  | nil => exact absurd created nothing_stands_at_first
  | append_singleton past e ih =>
    rw [run_concat]
    rcases stands_concat.mp created with registers | ⟨created, spared⟩
    · exact listens_register (orderly_run past) registers
    · obtain ⟨a, listens⟩ := ih created
      exact ⟨a, listens_step (orderly_run past) listens spared⟩

/-- The proxy on a port is the latest created there, if the port was not deleted since. -/
theorem get_iff_latest (past : List Event) (port : UInt16) (i : Nat) :
    (Yard.run {} past).get? port = some i ↔
      Stands (fun before e => Registers (Yard.run {} before) port i e)
        (fun before e => Vacates (Yard.run {} before) port e) past := by
  refine iff_stands (P := fun past => (Yard.run {} past).get? port = some i) nofun
    (fun past e => ?_) past
  rw [run_concat]
  exact get_step _ e port i

/-- The proxy on a port was created there, and the port was not deleted since. -/
theorem created_of_get (found : (Yard.run {} past).get? port = some i) : Created past port i := by
  obtain ⟨before, e, after, split, registers, kept⟩ := (get_iff_latest past port i).mp found
  exact ⟨before, e, after, split, registers, fun mid next rest at_ deleted =>
    kept mid next rest at_ (.inl deleted)⟩

/-- Some proxy is on a port on which one was created, if the port was not deleted since. -/
theorem get_of_created (created : Created past port i) :
    ∃ j, (Yard.run {} past).get? port = some j := by
  induction past using List.reverseRecOn generalizing i with
  | nil => exact absurd created nothing_stands_at_first
  | append_singleton past e ih =>
    simp only [run_concat, get_step]
    by_cases registers : ∃ j, Registers (Yard.run {} past) port j e
    · exact registers.imp fun _ => .inl
    · rcases stands_concat.mp created with now | ⟨created, spared⟩
      · exact absurd ⟨i, now⟩ registers
      · obtain ⟨j, found⟩ := ih created
        exact ⟨j, .inr ⟨found, not_or.mpr ⟨spared, registers⟩⟩⟩

theorem mem_list (y : Yard) (port : UInt16) : port ∈ y.list ↔ ∃ i, y.get? port = some i := by
  rw [← Option.isSome_iff_exists, Yard.get?, Option.isSome_map, List.find?_isSome]
  simp [Yard.list]

/-- Ports are listed in ascending order, each once. -/
theorem list_ascending (orderly : Orderly y) : y.list.Pairwise (· < ·) := by
  have sorted : y.list.Pairwise (fun a b => (decide (a ≤ b)) = true) :=
    List.pairwise_mergeSort (fun _ _ _ => by simpa using UInt16.le_trans)
      (fun a b => by simpa using UInt16.le_total a b) _
  have distinct : y.list.Nodup := (List.mergeSort_perm _ _).nodup_iff.mpr orderly.distinct
  exact (sorted.and distinct).imp fun ⟨le, ne⟩ => UInt16.lt_of_le_of_ne (of_decide_eq_true le) ne

/-! ## Who stands in the register -/

/-- That every proxy is on its port from its creation until the port is deleted. -/
def Undisplaced (past : List Event) : Prop :=
  ∀ port i, Created past port i → (Yard.run {} past).get? port = some i

/-- The register of a fleet after some events. -/
structure Register (past : List Event) : Prop where
  /-- A creation came to an end with a port by registering its proxy there. -/
  returned : ∀ port i, (∃ a, (Yard.run {} past).creations[i]? = some ⟨a, .created port⟩) ↔
    ∃ before e after, past = before ++ e :: after ∧ Registers (Yard.run {} before) port i e
  /-- The ports are listed in ascending order, each once. -/
  ascending : (Yard.run {} past).list.Pairwise (· < ·)
  /-- They are those of the proxies that were created and whose ports were not deleted since. -/
  listed : ∀ port, port ∈ (Yard.run {} past).list ↔ ∃ i, Created past port i
  /-- The proxy on a port is the latest created there, if the port was not deleted since. -/
  latest : ∀ port i, (Yard.run {} past).get? port = some i ↔
    Stands (fun before e => Registers (Yard.run {} before) port i e)
      (fun before e => Vacates (Yard.run {} before) port e) past
  /-- A proxy that was created and whose port was not deleted since listens there. -/
  listens : ∀ port i, Created past port i → ∃ a, Listens (Yard.run {} past) port i a
  /-- It is the proxy on its port unless one is there that listens on another address. -/
  displaced : ∀ port i a, Created past port i → Listens (Yard.run {} past) port i a →
    (Yard.run {} past).get? port = some i ∨
      ∃ j b, (Yard.run {} past).get? port = some j ∧ Created past port j ∧
        Listens (Yard.run {} past) port j b ∧ a ≠ b
  /-- So it is where one address is used. -/
  undisplaced : (∀ c ∈ (Yard.run {} past).creations, ∀ d ∈ (Yard.run {} past).creations,
      c.address = d.address) → Undisplaced past
  /-- A creation whose steps follow one another comes to what its order does in a fleet with proxies
  on the same ports. -/
  alone : ∀ (f : Fleet) (m : Gateway.Machine) (o : Fleet.Order),
    let y := Yard.run {} past
    SamePorts f y → Serves m y (addressOf f o) →
      ∃ steps, (∀ e ∈ steps, IsStep y.creations.length e) ∧
        let z := y.run (.create (addressOf f o) (wishOf f o) :: steps)
        ComesTo y (addressOf f o) (f.create m o).2.2 z ∧ SamePorts (f.create m o).2.1 z
  /-- So does a deletion. -/
  deletes : ∀ (f : Fleet) (port : UInt16), SamePorts f (Yard.run {} past) →
    SamePorts (f.delete port).1 ((Yard.run {} past).step (.delete port)) ∧
      (f.delete port).2 = ((Yard.run {} past).get? port).isSome
  /-- A fleet with proxies on the same ports lists the same. -/
  lists : ∀ f : Fleet, SamePorts f (Yard.run {} past) → f.list = (Yard.run {} past).list

/-- Two proxies that listen on one port of one address are one. -/
theorem listens_unique (orderly : Orderly y) {a : Net.Ip} (first : Listens y port i a)
    (second : Listens y port j a) : i = j :=
  orderly.exclusive _ first.housed _ second.housed rfl rfl

theorem displaced_elsewhere {a : Net.Ip} (created : Created past port i)
    (listens : Listens (Yard.run {} past) port i a) :
    (Yard.run {} past).get? port = some i ∨
      ∃ j b, (Yard.run {} past).get? port = some j ∧ Created past port j ∧
        Listens (Yard.run {} past) port j b ∧ a ≠ b := by
  obtain ⟨j, found⟩ := get_of_created created
  obtain ⟨b, other⟩ := listens_of_created (created_of_get found)
  by_cases same : a = b
  · subst b
    exact .inl (listens_unique (orderly_run past) listens other ▸ found)
  · exact .inr ⟨j, b, found, created_of_get found, other, same⟩

/-- The register follows the creations and deletions, and loses a proxy before its port is deleted
only to one on another address. -/
theorem register_follows_calls (past : List Event) : Register past := by
  constructor
  case returned =>
    intro port i
    refine iff_made (P := fun past =>
      ∃ a, (Yard.run {} past).creations[i]? = some ⟨a, .created port⟩) nofun (fun past e => ?_) past
    rw [run_concat]
    exact created_step _ e port i
  case ascending => exact list_ascending (orderly_run past)
  case listed =>
    intro port
    rw [mem_list]
    exact ⟨fun ⟨i, found⟩ => ⟨i, created_of_get found⟩, fun ⟨_, created⟩ => get_of_created created⟩
  case latest => exact get_iff_latest past
  case listens => exact fun _ _ => listens_of_created
  case displaced => exact fun _ _ _ => displaced_elsewhere
  case undisplaced =>
    intro one port i created
    obtain ⟨a, listens⟩ := listens_of_created created
    rcases displaced_elsewhere created listens with found | ⟨j, b, -, -, other, apart⟩
    · exact found
    · exact absurd (one _ (List.mem_of_getElem? listens.ended) _ (List.mem_of_getElem? other.ended))
        apart
  case alone => exact fun _ _ _ => creation_alone
  case deletes => exact fun _ port same => deletion_alone same port
  case lists => exact fun _ => lists_alike

/-- The system gives the same port of two addresses to two creations that take any, and the second
proxy comes to stand in the place of the first. -/
theorem displaced_from_another_address :
    ¬ Undisplaced [
      .create (.v4 127 0 0 1) (.port 0), .advance 0 0, .advance 0 40000, .advance 0 0,
      .create (.v4 127 0 0 2) (.port 0), .advance 1 0, .advance 1 40000, .advance 1 0] := by
  intro undisplaced
  let first : List Event := [.create (.v4 127 0 0 1) (.port 0), .advance 0 0, .advance 0 40000]
  let second : List Event :=
    [.create (.v4 127 0 0 2) (.port 0), .advance 1 0, .advance 1 40000, .advance 1 0]
  have created : Created (first ++ .advance 0 0 :: second) 40000 0 := by
    refine ⟨first, _, second, rfl, ⟨rfl, .v4 127 0 0 1, by decide +kernel⟩, ?_⟩
    rintro mid next rest split rfl
    have deleted : Event.delete 40000 ∈ second := by simp [split]
    simp [second] at deleted
  exact absurd (undisplaced 40000 0 created) (by decide +kernel)

end Wirelog.RegisteredProxies
