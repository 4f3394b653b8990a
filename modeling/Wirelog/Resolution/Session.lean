import Wirelog.Resolution.Book
/-!
Calls on a book, one after another, and the time that passes. A resolution that looks its host up
takes as long as the lookup; any other one takes no time.
-/
namespace Wirelog.Resolution

/-- A call on a book, or time that passes between calls. -/
inductive Call where
  /-- A host is resolved. If it is looked up, that takes some time and comes to this. -/
  | resolve (host : String) (port : Nat) (took : Time.Span) (found : Lookup)
  /-- The length of time changes. -/
  | setLifetime (lifetime : Time.Span)
  /-- A name is forgotten. -/
  | forget (host : String)
  /-- Everything is forgotten. -/
  | clear
  /-- Old entries are dropped. -/
  | sweep
  /-- Time passes. -/
  | pass (span : Time.Span)

/-- What a resolution comes to. -/
structure Reply where
  /-- The lookup that it made, if it made one. -/
  lookup : Option Lookup
  /-- Its result. -/
  result : Except Forward.Failure Resolved

/-- A book and the time. -/
structure Session where
  /-- The book. -/
  book : Book := {}
  /-- The time. -/
  now : Time.Span := 0

namespace Session

/-- Whether a host has to be looked up now. -/
def asks (s : Session) (host : String) : Bool :=
  (s.book.answer? s.now host 0).isNone

/-- One call: the session after it, and what it resolved. -/
def step (s : Session) : Call → Session × Option Reply
  | .resolve host port took found =>
    let ended := if s.asks host then s.now + took else s.now
    let (book, result) := s.book.resolve s.now ended (fun _ => found) host port
    ({ book, now := ended }, some { lookup := if s.asks host then some found else none, result })
  | .setLifetime lifetime => ({ s with book := s.book.setLifetime lifetime }, none)
  | .forget host => ({ s with book := s.book.forget host }, none)
  | .clear => ({ s with book := s.book.clear }, none)
  | .sweep => ({ s with book := s.book.sweep s.now }, none)
  | .pass span => ({ s with now := s.now + span }, none)

/-- The session after several calls. -/
def run (s : Session) (calls : List Call) : Session :=
  calls.foldl (fun s call => (s.step call).1) s

end Session
end Wirelog.Resolution
