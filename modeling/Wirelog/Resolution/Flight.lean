import Wirelog.Resolution.Book
/-!
Resolutions that overlap. Each first looks into the book, then waits for its lookup, and writes the
result into the book when the lookup is over; anything may happen to the book in between.
-/
namespace Wirelog.Resolution

/-- A lookup that is not over yet. -/
structure Flight where
  /-- The number of the resolution. -/
  id : Nat
  /-- The host. -/
  host : String
  /-- The port. -/
  port : Nat
deriving DecidableEq

/-- A book with the lookups under way. -/
structure Desk where
  /-- The book. -/
  book : Book := {}
  /-- The time. -/
  now : Time.Span := 0
  /-- Lookups under way. -/
  flights : List Flight := []
  /-- The number of the next resolution. -/
  next : Nat := 0

/-- What may happen. -/
inductive Action where
  /-- A resolution starts. -/
  | start (host : String) (port : Nat)
  /-- The lookup of a resolution is over. -/
  | land (id : Nat) (result : Lookup)
  /-- A name is forgotten. -/
  | forget (host : String)
  /-- Everything is forgotten. -/
  | clear
  /-- The length of time changes. -/
  | setLifetime (lifetime : Time.Span)
  /-- Old entries are dropped. -/
  | sweep
  /-- Time passes. -/
  | pass (span : Time.Span)

/-- What a resolution comes to. -/
structure Landing where
  /-- The number of the resolution. -/
  id : Nat
  /-- Its result. -/
  result : Except Forward.Failure Resolved

namespace Desk

/-- One action: the desk after it, and the resolution that it ended. -/
def step (d : Desk) : Action → Desk × Option Landing
  | .start host port =>
    match d.book.answer? d.now host port with
    | some r => ({ d with next := d.next + 1 }, some ⟨d.next, .ok r⟩)
    | none => ({ d with flights := ⟨d.next, host, port⟩ :: d.flights, next := d.next + 1 }, none)
  | .land id result =>
    match d.flights.find? (·.id == id) with
    | some f =>
      let (book, r) := d.book.accept d.now f.host f.port result
      ({ d with book, flights := d.flights.filter fun g => !(g.id == id) }, some ⟨id, r⟩)
    | none => (d, none)
  | .forget host => ({ d with book := d.book.forget host }, none)
  | .clear => ({ d with book := d.book.clear }, none)
  | .setLifetime lifetime => ({ d with book := d.book.setLifetime lifetime }, none)
  | .sweep => ({ d with book := d.book.sweep d.now }, none)
  | .pass span => ({ d with now := d.now + span }, none)

/-- The desk after several actions. -/
def run (d : Desk) (actions : List Action) : Desk :=
  actions.foldl (fun d a => (d.step a).1) d

end Desk
end Wirelog.Resolution
