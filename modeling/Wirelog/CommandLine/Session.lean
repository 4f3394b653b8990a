import Wirelog.Archive.Codec
import Wirelog.Authority.Numbered
import Wirelog.CommandLine.Arguments
import Wirelog.Gateway.Serve
import Wirelog.Gateway.Start
import Wirelog.Http.Wire
import Wirelog.Settings.Document
/-!
A run of the command: settings, the start of the proxy, the requests of one client, and the archive
at the end.
-/
namespace Wirelog.CommandLine

/-- Why a run ends early. -/
inductive Trouble where
  /-- The settings cannot be read. -/
  | unreadable (file : String)
  /-- The settings are not accepted. -/
  | malformed (file : String)
  /-- The proxy does not start. -/
  | start (failure : Gateway.StartFailure)
  /-- The archive cannot be written. -/
  | unwritable (file : String)
deriving DecidableEq

/-- The trouble in words. -/
def Trouble.message : Trouble → String
  | unreadable file => "Error: failed to read config " ++ file
  | malformed file => "Error: failed to parse config " ++ file
  | start failure => "Error: " ++ failure.message
  | unwritable file => "Error: failed to write HAR to " ++ file

/-- `load_config`: the settings in a file; without a file, the defaults. -/
def settingsOf (file : Option String) (content : Option Bytes) : Except Trouble Settings :=
  match file with
  | none => .ok {}
  | some name =>
    match content.bind Bytes.toText? with
    | none => .error (.unreadable name)
    | some text =>
      match Settings.load text with
      | .ok s => .ok s
      | .error _ => .error (.malformed name)

/-- `proxy_options`: where the proxy listens. What the arguments leave open comes from the
settings. -/
def placeFor (a : Arguments) (s : Settings) : Gateway.Place :=
  { address := a.bind.getD s.listening.bind
    port := a.port.getD s.listening.port
    relay := a.relay }

/-- The machine of a run. Its certificates hold nothing, so a connection that is to be decrypted is
given up. -/
def machine : Gateway.Machine :=
  { toolkit := .numbered, bind := fun _ port => .listening port }

/-- The proxy at the beginning of a run, with its first page. -/
def begin (a : Arguments) (s : Settings) (now : Time.Instant) : Except Trouble Gateway :=
  match (Gateway.start machine s (placeFor a s)).2 with
  | .ok (g, _) =>
    .ok { g with recorder := g.recorder.newLog now s.capture.firstPage none }
  | .error failure => .error (.start failure)

/-- The answer to octets that are no request. -/
def badRequest : Http.Response :=
  .synthetic 400 .empty

/-- The reaction to a request of the client: the octets of the answer, and whether the connection
goes on. -/
def react (g : Gateway) (s : Gateway.Surroundings) (c : Client) (r : Http.Request) :
    Gateway × Client × Bytes × Bool :=
  match g.serve s c none r with
  | (g, c, .answer response) => (g, c, Http.Wire.ofResponse response, true)
  | (g, c, .intercept _) | (g, c, .tunnel _) | (g, c, .never) => (g, c, .empty, false)

/-- The archive at the end of a run. -/
def archive (g : Gateway) : Option String :=
  g.recorder.document?.map Archive.Log.save

end Wirelog.CommandLine
