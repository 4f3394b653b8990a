import Wirelog.Proofs.PatternPlaces
import Wirelog.Proofs.PatternRuns
/-!
The patterns that come out of reading have their bounds in order: a repetition whose upper bound is
below its lower one is refused, and nothing else makes a repetition with two bounds of its own.
-/
namespace Wirelog.Pattern

/-- Items whose repetitions all have their bounds in order. -/
def OrderlyItems (items : List Item) : Prop :=
  ∀ item ∈ items, item.node.Orderly

theorem OrderlyItems.cons {items : List Item} {item : Item} (first : item.node.Orderly)
    (others : OrderlyItems items) : OrderlyItems (item :: items) :=
  List.forall_mem_cons.mpr ⟨first, others⟩

theorem OrderlyItems.reverse {items : List Item} (orderly : OrderlyItems items) :
    OrderlyItems items.reverse :=
  fun item member => orderly item (List.mem_reverse.mp member)

private theorem orderly_foldl {items : List Item} (orderly : OrderlyItems items) {node : Node}
    (first : node.Orderly) : (items.foldl (fun a b => .seq a b.node) node).Orderly := by
  induction items generalizing node with
  | nil => exact first
  | cons item items ih =>
    obtain ⟨second, others⟩ := List.forall_mem_cons.mp orderly
    exact ih others ⟨first, second⟩

theorem orderly_sequence {items : List Item} (orderly : OrderlyItems items) :
    (sequence items).node.Orderly := by
  match items with
  | [] => trivial
  | [item] => exact orderly item List.mem_cons_self
  | first :: second :: rest =>
    obtain ⟨one, others⟩ := List.forall_mem_cons.mp orderly
    exact orderly_foldl others one

private theorem orderly_joined {first : Item} {rest : List Item} (one : first.node.Orderly)
    (others : OrderlyItems rest) : (choice.joined first rest).Orderly := by
  induction rest generalizing first with
  | nil => exact one
  | cons second rest ih =>
    obtain ⟨two, others⟩ := List.forall_mem_cons.mp others
    exact ⟨one, ih two others⟩

theorem orderly_choice {items : List Item} (orderly : OrderlyItems items) :
    (choice items).node.Orderly := by
  match items with
  | [] => trivial
  | [item] => exact orderly item List.mem_cons_self
  | first :: second :: rest =>
    obtain ⟨one, others⟩ := List.forall_mem_cons.mp orderly
    exact orderly_joined one others

theorem orderly_repeatLast {flags : Flags} {items made : List Item} {low : Nat} {high : Option Nat}
    {lazy : Bool} (orderly : OrderlyItems items) (ordered : ∀ h ∈ high, low ≤ h)
    (read : repeatLast flags items low high lazy = some made) : OrderlyItems made := by
  unfold repeatLast at read
  split at read
  · cases read
  · split at read
    · cases read
    · cases read
      obtain ⟨one, others⟩ := List.forall_mem_cons.mp orderly
      exact .cons ⟨ordered, one⟩ others

namespace Reading

/-- A reading whose repetitions all have their bounds in order, those around open groups too. -/
structure Orderly (r : Reading) : Prop where
  /-- In the present alternative. -/
  items : OrderlyItems r.items
  /-- In the alternatives before it. -/
  alts : OrderlyItems r.alts
  /-- Around the open groups. -/
  frames : ∀ f ∈ r.frames, OrderlyItems f.items ∧ OrderlyItems f.alts

variable {r made : Reading}

theorem orderly_blank : Orderly {} :=
  ⟨nofun, nofun, nofun⟩

theorem Orderly.present (orderly : r.Orderly) : r.present.node.Orderly :=
  orderly_choice (OrderlyItems.cons (orderly_sequence orderly.items.reverse) orderly.alts).reverse

theorem Orderly.push (orderly : r.Orderly) {node : Node} (fine : node.Orderly) (depth : Nat) :
    (r.push node depth).Orderly :=
  { orderly with items := .cons fine orderly.items }

theorem Orderly.pushOne (orderly : r.Orderly) (cls : CharClass) (depth : Nat) :
    (r.push (.one cls) depth).Orderly :=
  orderly.push (show (Node.one cls).Orderly from trivial) depth

theorem Orderly.pushLook (orderly : r.Orderly) (l : Look) : (r.push (.look l) 0).Orderly :=
  orderly.push (show (Node.look l).Orderly from trivial) 0

theorem Orderly.enter (orderly : r.Orderly) (number : Option Nat) (flags : Flags) :
    (r.enter number flags).Orderly :=
  ⟨nofun, nofun, List.forall_mem_cons.mpr ⟨⟨orderly.items, orderly.alts⟩, orderly.frames⟩⟩

theorem Orderly.leave (orderly : r.Orderly) (left : r.leave = some made) : made.Orderly := by
  unfold Reading.leave at left
  split at left
  case h_1 => cases left
  case h_2 f frames same =>
    cases left
    have around := orderly.frames
    rw [same] at around
    obtain ⟨⟨items, alts⟩, others⟩ := List.forall_mem_cons.mp around
    refine ⟨.cons ?_ items, alts, others⟩
    cases f.number with
    | none => exact orderly.present
    | some n => exact orderly.present

private theorem Orderly.opened (orderly : r.Orderly) {o : Opening} (read : r.opened o = some made) :
    made.Orderly := by
  cases o with
  | directive flags =>
    cases read
    exact { orderly with items := .cons trivial orderly.items }
  | plain flags =>
    cases read
    exact orderly.enter none flags
  | capture =>
    cases read
    have counted : Orderly { r with captures := r.captures + 1 } :=
      ⟨orderly.items, orderly.alts, orderly.frames⟩
    exact counted.enter _ _
  | named name =>
    rw [Reading.opened] at read
    split at read
    · cases read
    · cases read
      have counted : Orderly { r with
          captures := r.captures + 1, names := r.names ++ [(name, r.captures + 1)] } :=
        ⟨orderly.items, orderly.alts, orderly.frames⟩
      exact counted.enter _ _

private theorem Orderly.escaped (orderly : r.Orderly) {x : Atom} (read : r.escaped x = some made) :
    made.Orderly := by
  cases x with
  | literal c =>
    cases read
    exact orderly.pushOne _ 0
  | cls cls =>
    rw [Reading.escaped] at read
    split at read
    · cases read
      exact orderly.pushOne cls 0
    · cases read
  | look l =>
    cases read
    exact orderly.pushLook l

/-- Every item keeps the bounds in order. -/
theorem Orderly.step (orderly : r.Orderly) {c : Char} {s rest : List Char}
    (read : r.step c s = some (made, rest)) : made.Orderly := by
  have repeated : ∀ {low : Nat} {high : Option Nat} {lazy : Bool} {left : List Char},
      (∀ h ∈ high, low ≤ h) →
      (repeatLast r.flags r.items low high lazy).map (fun items => ({ r with items }, left)) =
        some (made, rest) → made.Orderly := by
    intro low high lazy left ordered read
    obtain ⟨items, found, same⟩ := Option.map_eq_some_iff.mp read
    cases same
    exact { orderly with items := orderly_repeatLast orderly.items ordered found }
  by_cases group : c = '('
  · subst group
    rw [step_open] at read
    obtain ⟨o, _, read⟩ := Option.bind_eq_some_iff.mp read
    obtain ⟨_, opened, same⟩ := Option.map_eq_some_iff.mp read
    cases same
    exact orderly.opened opened
  by_cases escape : c = '\\'
  · subst escape
    rw [step_escape] at read
    obtain ⟨x, _, read⟩ := Option.bind_eq_some_iff.mp read
    obtain ⟨_, escaped, same⟩ := Option.map_eq_some_iff.mp read
    cases same
    exact orderly.escaped escaped
  rw [step.eq_def] at read
  dsimp only at read
  split at read
  case h_1 => exact (group rfl).elim
  case h_12 => exact (escape rfl).elim
  case h_2 =>
    obtain ⟨_, left, same⟩ := Option.map_eq_some_iff.mp read
    cases same
    exact orderly.leave left
  case h_3 =>
    cases read
    exact ⟨List.forall_mem_nil _, .cons (orderly_sequence orderly.items.reverse) orderly.alts, orderly.frames⟩
  case h_4 =>
    obtain ⟨_, _, same⟩ := Option.map_eq_some_iff.mp read
    cases same
    exact orderly.pushOne _ _
  case h_5 => exact repeated (by simp) read
  case h_6 => exact repeated (by simp) read
  case h_7 => exact repeated (by simp) read
  case h_8 =>
    split at read
    · cases read
    · obtain ⟨bounds, found, read⟩ := Option.bind_eq_some_iff.mp read
      exact repeated (takeBounds_ordered r.flags found) read
  case h_9 =>
    obtain ⟨_, _, same⟩ := Option.map_eq_some_iff.mp read
    cases same
    exact orderly.pushOne _ 0
  case h_10 =>
    cases read
    exact orderly.pushLook _
  case h_11 =>
    cases read
    exact orderly.pushLook _
  case h_13 =>
    cases read
    exact orderly.pushOne _ 0

theorem Orderly.run (orderly : r.Orderly) {s : List Char} {n : Nat} (read : r.run s n = some made) :
    made.Orderly := by
  induction n generalizing r s with
  | zero => cases read
  | succ n ih =>
    rw [Reading.run] at read
    split at read
    case h_1 =>
      cases read
      exact orderly
    case h_2 c rest _ =>
      split at read
      case h_1 stepped => exact ih (orderly.step stepped) read
      case h_2 => cases read

end Reading
end Wirelog.Pattern
