import Wirelog.CommandLine.Session
import Std.Time.DateTime.Timestamp
/-!
The command. It serves one client, whose octets come in on the standard input and whose answers go
out on the standard output, as a program behind a listening service does. It reaches no network of
its own, so requests that have to be sent on are answered with the failure to do so.
-/
namespace Wirelog.CommandLine

/-- The present moment. -/
def currentMoment : IO Time.Instant := do
  let t ← Std.Time.Timestamp.now
  return Time.Instant.ofMillis t.toMillisecondsSinceUnixEpoch.val.toNat

/-- What surrounds a request now. -/
def surroundings : IO Gateway.Surroundings := do
  return { network := .unplugged, moment := ← currentMoment, now := ← IO.monoNanosNow }

/-- Serves requests until the input ends or the connection is given up. -/
partial def session (input output : IO.FS.Stream) (g : Gateway) (c : Client)
    (pending : List UInt8) : IO Gateway := do
  match Http.Wire.request pending with
  | .done r rest =>
    let (g, c, octets, goesOn) := react g (← surroundings) c r
    output.write octets
    output.flush
    if goesOn then session input output g c rest else return g
  | .bad =>
    output.write (Http.Wire.ofResponse badRequest)
    output.flush
    return g
  | .more =>
    let more ← input.read 65536
    if more.isEmpty then return g else session input output g c (pending ++ Bytes.octets more)

/-- Reads a file, if that is possible. -/
def contentOf (file : String) : IO (Option Bytes) := do
  try
    return some (← IO.FS.readBinFile file)
  catch _ => return none

/-- Writes a file: whether that was possible. -/
def writeText (file text : String) : IO Bool := do
  try
    IO.FS.writeFile file text
    return true
  catch _ => return false

/-- Reports trouble. -/
def report (t : Trouble) : IO UInt32 := do
  IO.eprintln t.message
  return 1

/-- Runs with arguments. -/
def run (a : Arguments) : IO UInt32 := do
  let content ← match a.config with
    | some file => contentOf file
    | none => pure none
  match settingsOf a.config content with
  | .error t => report t
  | .ok s =>
    match begin a s (← currentMoment) with
    | .error t => report t
    | .ok g =>
      let id := Client.identity (Bytes.octets (← IO.getRandomBytes 16))
      let client : Client := { id, remote := { ip := .v4 127 0 0 1, port := 0 } }
      let g ← session (← IO.getStdin) (← IO.getStdout) g client []
      match archive g with
      | none => return 0
      | some text =>
        if ← writeText a.archiveFile text then return 0
        else report (.unwritable a.archiveFile)

end Wirelog.CommandLine

/-- The command. -/
def main (arguments : List String) : IO UInt32 := do
  match Wirelog.CommandLine.parse {} arguments with
  | .ok (.run a) => Wirelog.CommandLine.run a
  | .ok .help =>
    IO.print Wirelog.CommandLine.help
    return 0
  | .error e =>
    IO.eprintln e.message
    return 2
