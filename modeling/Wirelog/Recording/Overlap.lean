import Wirelog.Handling.Interceptor
/-!
Exchanges that overlap. Calls on a recorder and on the exchanges that it began come in any order:
a log takes over while exchanges of the one before are still under way, and the flags and the page
change between any two calls. A call that panics may be followed by others where somebody catches
the panic; no lock keeps them out.
-/
namespace Wirelog.Recording

/-- One of the flags. -/
inductive Part where
  | headers
  | content
  | binary

/-- The flags after one of them is set or cleared. -/
def Flags.set (f : Flags) (part : Part) (on : Bool) : Flags :=
  match part with
  | .headers => { f with headers := on }
  | .content => { f with content := on }
  | .binary => { f with binary := on }

namespace Overlap

/-- A call on one exchange. -/
inductive Touch where
  /-- Something happens to it. -/
  | event (e : Event)
  /-- Its owner lets go of it. -/
  | drop

/-- What a call comes to for the exchange: one that is let go of is given up. -/
def Touch.toEvent : Touch → Event
  | .event e => e
  | .drop => .failed abandoned

/-- A call. Exchanges are numbered in the order of their beginning, logs in that of their
opening. -/
inductive Call where
  /-- Open a log. -/
  | newLog (now : Time.Instant) (ref title : Option String)
  /-- Stop recording. -/
  | endLog
  /-- Start a page in the active log. -/
  | newPage (now : Time.Instant) (ref title : Option String)
  /-- Set or clear a flag. -/
  | keep (part : Part) (on : Bool)
  /-- Begin an exchange. -/
  | begin (now : Time.Instant) (request : Http.Request) (connection : Option String)
  /-- Look at the active log. -/
  | look
  /-- Edit a log that somebody still holds. -/
  | edit (log : Nat) (now : Time.Instant) (change : LogEdit)
  /-- A call on an exchange. -/
  | touch (exchange : Nat) (call : Touch)

/-- What a call gives back. -/
inductive Reply where
  /-- Nothing. -/
  | done
  /-- A log, if there was one. -/
  | log (document : Option Archive.Log)
  /-- The identifier of a page. -/
  | page (id : String)
  /-- The call was refused. -/
  | refused (reason : Refusal)
  /-- The number of an exchange. -/
  | exchange (number : Nat)
  /-- Nothing: the call panicked. -/
  | panicked

/-- A recorder with all exchanges that it began. One that was let go of stays here, for its entry
stays where it is. -/
structure Ledger where
  /-- The recorder. -/
  recorder : Recorder
  /-- The exchanges in order of their beginning. -/
  traces : List Trace := []

namespace Ledger

/-- A recorder at its start. -/
def new (flags : Flags) : Ledger :=
  { recorder := { flags } }

/-- A call on an exchange; on one that is not there it does nothing. -/
def touch (l : Ledger) (k : Nat) (t : Touch) : Ledger :=
  match l.traces[k]? with
  | some trace =>
    let (recorder, trace) := l.recorder.record trace t.toEvent
    { recorder, traces := l.traces.set k trace }
  | none => l

/-- Whether a call on an exchange panics. -/
def panics (l : Ledger) (k : Nat) (t : Touch) : Bool :=
  l.traces[k]?.any fun trace => l.recorder.panics trace t.toEvent

/-- A call: the ledger after it and what it gives back. -/
def step (l : Ledger) : Call → Ledger × Reply
  | .newLog now ref title =>
    let (recorder, previous) := l.recorder.replaceLog now ref title
    ({ l with recorder }, .log previous)
  | .endLog =>
    let (recorder, previous) := l.recorder.closeLog
    ({ l with recorder }, .log previous)
  | .newPage now ref title =>
    match l.recorder.newPage now ref title with
    | .ok (recorder, id) => ({ l with recorder }, .page id)
    | .error reason => (l, .refused reason)
  | .keep part on =>
    ({ l with recorder := { l.recorder with flags := l.recorder.flags.set part on } }, .done)
  | .begin now request connection =>
    let (recorder, trace) := l.recorder.begin now request connection
    ({ recorder, traces := l.traces ++ [trace] }, .exchange l.traces.length)
  | .look => (l, .log l.recorder.document?)
  | .edit n now change => ({ l with recorder := l.recorder.onLog n (·.edit now change) }, .done)
  | .touch k t => (l.touch k t, if l.panics k t then .panicked else .done)

/-- The ledger after a call. -/
def after (l : Ledger) (call : Call) : Ledger :=
  (l.step call).1

/-- The ledger after calls in order. -/
def run (l : Ledger) (calls : List Call) : Ledger :=
  calls.foldl after l

/-- What a panic that nobody catches comes to where the thread holds some exchanges: they are let go
of one after another, and one that panics in turn ends the process. -/
def unwind (l : Ledger) : List Nat → Option Ledger
  | [] => some l
  | k :: rest => if l.panics k .drop then none else (l.touch k .drop).unwind rest

/-- The entry of an exchange, if it is recorded. -/
def entryOf (l : Ledger) (k : Nat) : Option Archive.Entry :=
  l.traces[k]?.bind l.recorder.snapshot

end Ledger
end Overlap
end Wirelog.Recording
