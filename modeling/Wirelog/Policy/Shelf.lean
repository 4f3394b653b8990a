import Wirelog.Policy.Update
/-!
The policies of a proxy over time. A change never touches a policy that is there: it makes another
one and puts this in force. So a policy can be taken and kept, whatever changes come after.
-/
namespace Wirelog.Policy

/-- The policy after changes in order, the refused ones left out. -/
def changed (p : Policy) (changes : List Update) : Policy :=
  changes.foldl tryUpdate p

/-- The policy that changes make from the start. -/
def made (changes : List Update) : Policy :=
  changed {} changes

/-- A call on a shelf. -/
inductive Call where
  /-- Change the policy. -/
  | update (change : Update)
  /-- Take the policy in force. -/
  | take

/-- What a call gives back. -/
inductive Reply where
  /-- Nothing. -/
  | done
  /-- The change was refused. -/
  | refused (reason : Refusal)
  /-- The number of a policy that was taken. -/
  | taken (number : Nat)

/-- `RuleEngine`: all policies that ever were in force, with those that were taken. -/
structure Shelf where
  /-- The policies that were in force before, the first one first. -/
  earlier : List Policy := []
  /-- The policy in force. -/
  current : Policy := {}
  /-- The places of the taken policies, in the order in which they were taken. -/
  taken : List Nat := []

namespace Shelf

/-- All policies in the order of their coming into force. -/
def all (s : Shelf) : List Policy :=
  s.earlier ++ [s.current]

/-- A call: the shelf after it and what it gives back. -/
def step (s : Shelf) : Call → Shelf × Reply
  | .update change =>
    match s.current.update change with
    | .ok next => ({ s with earlier := s.all, current := next }, .done)
    | .error reason => (s, .refused reason)
  | .take => ({ s with taken := s.taken ++ [s.earlier.length] }, .taken s.taken.length)

/-- The shelf after a call. -/
def after (s : Shelf) (call : Call) : Shelf :=
  (s.step call).1

/-- The shelf after calls in order. -/
def run (s : Shelf) (calls : List Call) : Shelf :=
  calls.foldl after s

/-- The policy that was taken under a number. -/
def held? (s : Shelf) (number : Nat) : Option Policy :=
  s.taken[number]?.bind fun place => s.all[place]?

end Shelf
end Wirelog.Policy
