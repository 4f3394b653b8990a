import Wirelog.Time.Span
/-!
Waiting until no request has come for a while (`HarRecorder::wait_for_traffic_to_stop`). The wait
goes by a clock that it is given: a round looks for the last request, then at the time, and either
ends or names the moment to wake up. Requests may come at any time, between these two looks as well
as while it sleeps, and it may wake up late. The clock tells moments up to a last one, and a wait
that needs a later one panics.
-/
namespace Wirelog.Recording.Quiet

/-- A wait that began at a moment. -/
structure Wait where
  /-- When it began. -/
  start : Time.Span
  /-- How long it has to be quiet. -/
  quiet : Time.Span
  /-- How long the wait may take. -/
  timeout : Time.Span
  /-- The last moment that the clock can tell. -/
  horizon : Time.Span

/-- The moment some time after another, if the clock can tell it. -/
def Wait.later? (w : Wait) (moment length : Time.Span) : Option Time.Span :=
  if moment + length ≤ w.horizon then some (moment + length) else none

/-- The moment at which the wait gives up. -/
def Wait.deadline? (w : Wait) : Option Time.Span :=
  w.later? w.start w.timeout

/-- The moment at which it has been quiet for long enough, counted from the later of the call and
the last request. -/
def Wait.quietAt? (w : Wait) (lastRequest : Time.Span) : Option Time.Span :=
  w.later? (max lastRequest w.start) w.quiet

/-- What a round comes to. -/
inductive Round where
  /-- The wait is over; the flag tells whether it was quiet for long enough. -/
  | over (quiet : Bool)
  /-- Sleep until a moment. -/
  | sleep (wake : Time.Span)
deriving DecidableEq

/-- What a round comes to that has both moments and the time. Quiet is looked at before the
timeout. -/
def Round.of (quietAt deadline now : Time.Span) : Round :=
  if quietAt ≤ now then .over true
  else if deadline ≤ now then .over false
  else .sleep (min quietAt deadline)

/-- What comes around a round, as the clock tells it. -/
structure Turn where
  /-- When requests came since the time was last looked at, before this round looks for the last
  one. -/
  before : List Time.Span := []
  /-- When requests came between this look and the one at the time. -/
  between : List Time.Span := []
  /-- How much later than it asked to be woken up the round looks at the time. -/
  late : Time.Span := 0

/-- When requests came around a round. -/
def Turn.requests (t : Turn) : List Time.Span :=
  t.before ++ t.between

/-- The last of some requests, or of those before. -/
def latest (requests : List Time.Span) (before : Time.Span) : Time.Span :=
  requests.getLast?.getD before

/-- What a wait comes to. -/
inductive Outcome where
  /-- Its answer, whether it was quiet for long enough, at a moment. -/
  | answered (quiet : Bool) (moment : Time.Span)
  /-- It needed a moment that the clock cannot tell. -/
  | panicked
deriving DecidableEq

/-- How a wait ended. -/
structure Ending where
  /-- What it came to. -/
  outcome : Outcome
  /-- The number of rounds. -/
  rounds : Nat
  /-- When requests came during the wait, in the order in which they came. -/
  requests : List Time.Span
deriving DecidableEq

/-- The ending of a wait that goes on after a round. -/
def Ending.after (turn : Turn) (e : Ending) : Ending :=
  { e with rounds := e.rounds + 1, requests := turn.requests ++ e.requests }

/-- Runs rounds, the first of which was to begin at a moment, after the last request came at
another. There is no ending when the turns give out. -/
def Wait.rounds (w : Wait) (deadline : Time.Span) :
    List Turn → Time.Span → Time.Span → Option Ending
  | [], _, _ => none
  | turn :: rest, wake, last =>
    match w.quietAt? (latest turn.before last) with
    | none => some { outcome := .panicked, rounds := 1, requests := turn.before }
    | some quietAt =>
      match Round.of quietAt deadline (wake + turn.late) with
      | .over quiet =>
        some {
          outcome := .answered quiet (wake + turn.late)
          rounds := 1
          requests := turn.requests }
      | .sleep wake =>
        (w.rounds deadline rest wake (latest turn.requests last)).map (Ending.after turn)

/-- `HarRecorder::wait_for_traffic_to_stop`: runs a wait, before which the last request came at a
moment. -/
def Wait.run (w : Wait) (turns : List Turn) (last : Time.Span) : Option Ending :=
  match w.deadline? with
  | none => some { outcome := .panicked, rounds := 0, requests := [] }
  | some deadline => w.rounds deadline turns w.start last

end Wirelog.Recording.Quiet
