import Wirelog.Forward.Failure
import Wirelog.Time.Span
/-!
Waiting under limits. A request as a whole may have a limit, and each wait one of its own. When
several things happen at the same moment, what was waited for comes first, then the limit of the
wait, and last the limit of the request.
-/
namespace Wirelog.Forward

/-- Something from outside: what it is, and how long it takes to come, if it ever does. -/
structure Reply (α : Type) where
  /-- What comes. -/
  result : α
  /-- How long it takes; `none` if it never comes. -/
  after : Option Time.Span := some 0
deriving DecidableEq

/-- The time of a request. -/
structure Clock where
  /-- When the request started. -/
  started : Time.Span := 0
  /-- How long it has taken by now. -/
  elapsed : Time.Span := 0
  /-- The limit for the request as a whole. -/
  limit : Option Time.Span := none
deriving DecidableEq

/-- How a wait ends. -/
inductive Awaited (α : Type) where
  /-- It came. -/
  | came (result : α)
  /-- A limit was passed. -/
  | expired (wait : Wait)
  /-- Nothing ever ends the wait. -/
  | never
deriving DecidableEq

namespace Clock

/-- The present moment. -/
def now (c : Clock) : Time.Span :=
  c.started + c.elapsed

/-- The clock after a while. -/
def pass (c : Clock) (span : Time.Span) : Clock :=
  { c with elapsed := c.elapsed + span }

/-- How much of the limit of the request is left. -/
def left (c : Clock) : Option Time.Span :=
  c.limit.map fun limit => limit - c.elapsed

/-- Whether a moment comes no later than another; never comes after everything. -/
def noLater : Option Time.Span → Option Time.Span → Bool
  | some a, some b => a ≤ b
  | some _, none => true
  | none, some _ => false
  | none, none => true

/-- `with_timeout`: waits for a reply: the clock when the wait is over, and how it ended. -/
def await {α : Type} (c : Clock) (limit : Option Time.Span) (wait : Wait) (r : Reply α) :
    Clock × Awaited α :=
  match r.after, limit, c.left with
  | none, none, none => (c, .never)
  | after, limit, left =>
    if after.isSome && noLater after limit && noLater after left then
      (c.pass (after.getD 0), .came r.result)
    else if limit.isSome && noLater limit left then (c.pass (limit.getD 0), .expired wait)
    else (c.pass (left.getD 0), .expired .request)

end Clock
end Wirelog.Forward
