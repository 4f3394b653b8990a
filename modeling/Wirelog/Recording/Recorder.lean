import Wirelog.Recording.Event
import Wirelog.Refusal
/-!
The recorder of a proxy. It keeps every log that was opened, because an exchange goes on writing
into the log in which it began, even after another log has taken over; only the last log can be
active. Each exchange holds the place of its own entry, so no event ever has to look for it.
-/
namespace Wirelog.Recording

/-- `CaptureLog`: a log that exchanges append to. -/
structure OpenLog where
  /-- The pages in order of creation. -/
  pages : List Archive.Page := []
  /-- The entries in order of their beginning. -/
  entries : List Archive.Entry := []
  /-- The page that new entries belong to. -/
  current : Option String := none
  /-- Free text. -/
  comment : Option String := none

namespace OpenLog

/-- `CaptureLog::new_page`: starts a page and makes it the current one. Without an identifier, pages
are named by how many were there before; without a title, by their identifier. -/
def newPage (log : OpenLog) (now : Time.Instant) (ref title : Option String) :
    OpenLog × String :=
  let id := ref.getD ("Page " ++ Text.natText log.pages.length)
  let page : Archive.Page := { id, started := now, title := title.getD id }
  ({ log with pages := log.pages ++ [page], current := some id }, id)

/-- `CaptureLog::new`: a log with its first page. -/
def create (now : Time.Instant) (ref title : Option String) : OpenLog :=
  (newPage {} now ref title).1

/-- `CaptureLog::to_har`: the log as a document, with unfinished entries as they are by now. -/
def document (log : OpenLog) : Archive.Log :=
  { pages := log.pages, entries := log.entries, comment := log.comment }

end OpenLog

/-- Where the entry of an exchange stands. -/
structure Place where
  /-- The number of the log. -/
  log : Nat
  /-- The number of the entry in it. -/
  entry : Nat
deriving DecidableEq

/-- `HarRecorder`: the state of a recorder. -/
structure Recorder where
  /-- Which parts of new exchanges are kept. -/
  flags : Flags := {}
  /-- Every log so far, oldest first. -/
  logs : List OpenLog := []
  /-- The last log takes new exchanges. -/
  active : Bool := false

/-- `ExchangeCapture`: an exchange as its owner holds it. -/
structure Trace where
  /-- The place of its entry, when it is recorded. -/
  place : Option Place
  /-- How far it has come. -/
  phase : Phase := .opened
  /-- The flags at its beginning, which hold for all of it. -/
  flags : Flags
deriving DecidableEq

namespace Recorder

/-- The number of the active log. -/
def runningLog? (r : Recorder) : Option Nat :=
  if r.active ∧ 0 < r.logs.length then some (r.logs.length - 1) else none

/-- A log by its number. -/
def log? (r : Recorder) (n : Nat) : Option OpenLog :=
  r.logs[n]?

/-- The active log. -/
def current? (r : Recorder) : Option OpenLog :=
  r.runningLog?.bind r.log?

/-- `HarRecorder::har`: the active log as a document. -/
def document? (r : Recorder) : Option Archive.Log :=
  r.current?.map OpenLog.document

/-- Changes one log. -/
def onLog (r : Recorder) (n : Nat) (f : OpenLog → OpenLog) : Recorder :=
  { r with logs := r.logs.modify n f }

/-- Opens a log, which takes over from the active one. -/
def newLog (r : Recorder) (now : Time.Instant) (ref title : Option String) : Recorder :=
  { r with logs := r.logs ++ [OpenLog.create now ref title], active := true }

/-- Stops recording. -/
def endLog (r : Recorder) : Recorder :=
  { r with active := false }

/-- `HarRecorder::new_har`: opens a log and hands out the one that it takes over from, read once it
is out of the way. -/
def replaceLog (r : Recorder) (now : Time.Instant) (ref title : Option String) :
    Recorder × Option Archive.Log :=
  let next := r.newLog now ref title
  (next, (r.runningLog?.bind next.log?).map OpenLog.document)

/-- `HarRecorder::end_har`: stops recording and hands out the last log. -/
def closeLog (r : Recorder) : Recorder × Option Archive.Log :=
  let next := r.endLog
  (next, (r.runningLog?.bind next.log?).map OpenLog.document)

/-- `HarRecorder::new_page`: starts a page in the active log: the recorder and the identifier of the
page. -/
def newPage (r : Recorder) (now : Time.Instant) (ref title : Option String) :
    Except Refusal (Recorder × String) :=
  match r.runningLog? with
  | some n =>
    match r.log? n with
    | some log =>
      .ok (r.onLog n fun _ => (log.newPage now ref title).1, (log.newPage now ref title).2)
    | none => .error (.badParameter "har" "no active HAR; call new_har first")
  | none => .error (.badParameter "har" "no active HAR; call new_har first")

/-- `CaptureLog::set_comment`: sets the comment of the active log, if there is one. -/
def setComment (r : Recorder) (comment : Option String) : Recorder :=
  match r.runningLog? with
  | some n => r.onLog n fun log => { log with comment }
  | none => r

/-- `HarRecorder::begin`: begins an exchange. With an active log, it gets an entry on the current
page; without one it is not recorded. -/
def begin (r : Recorder) (now : Time.Instant) (request : Http.Request)
    (connection : Option String) : Recorder × Trace :=
  match r.runningLog?, r.current? with
  | some n, some log =>
    let entry : Archive.Entry :=
      { pageref := log.current
        started := now
        request := requestRecord r.flags request
        connection }
    (r.onLog n fun log => { log with entries := log.entries ++ [entry] },
      { place := some ⟨n, log.entries.length⟩, flags := r.flags })
  | _, _ => (r, { place := none, flags := r.flags })

/-- The entry at a place. -/
def entry? (r : Recorder) (p : Place) : Option Archive.Entry :=
  (r.log? p.log).bind fun log => log.entries[p.entry]?

/-- Changes the entry at a place. -/
def onEntry (r : Recorder) (p : Place) (f : Archive.Entry → Archive.Entry) : Recorder :=
  r.onLog p.log fun log => { log with entries := log.entries.modify p.entry f }

/-- Lets an event happen to an exchange. One out of order changes nothing. -/
def record (r : Recorder) (t : Trace) (event : Event) : Recorder × Trace :=
  match t.phase.after? event with
  | none => (r, t)
  | some phase =>
    let r := match t.place with
      | some place => r.onEntry place (event.apply t.flags)
      | none => r
    (r, { t with phase })

/-- `ExchangeCapture::snapshot`: the entry of an exchange as it is by now. -/
def snapshot (r : Recorder) (t : Trace) : Option Archive.Entry :=
  t.place.bind r.entry?

/-- Whether a call that lets an event happen to an exchange panics: the event counts, and the phases
that it leaves in the entry have no sum. -/
def panics (r : Recorder) (t : Trace) (event : Event) : Bool :=
  (t.phase.after? event).isSome && (r.snapshot t).any (event.overflows t.flags)

/-- `ExchangeCapture::drop`: gives an exchange up. If it is not finished, it fails. -/
def abandon (r : Recorder) (t : Trace) : Recorder :=
  (r.record t (.failed abandoned)).1

end Recorder
end Wirelog.Recording
