import Wirelog.Net.Ip
/-!
Arguments of the command. Every option has a long name and takes one value, which follows it or an
equals sign; none may be given twice. A value does not start with a hyphen, unless it is nothing but
one.
-/
namespace Wirelog.CommandLine

/-- `Args`: the arguments. -/
structure Arguments where
  /-- The file of the settings. -/
  config : Option String := none
  /-- The address to listen on. -/
  bind : Option Net.Ip := none
  /-- The port to listen on. -/
  port : Option UInt16 := none
  /-- The proxy to send requests through. -/
  relay : Option String := none
  /-- The file that the archive is written to; there is one in any case. -/
  archive : Option String := none
deriving DecidableEq

namespace Arguments

/-- The file that the archive is written to. -/
def archiveFile (a : Arguments) : String :=
  a.archive.getD "capture.har"

end Arguments

/-- Why arguments are not accepted. -/
inductive UsageError where
  /-- An argument that does not exist. -/
  | unexpected (argument : String)
  /-- An option without a value. -/
  | missing (option : String)
  /-- An option that is given twice. -/
  | repeated (option : String)
  /-- A value that an option does not take. -/
  | invalid (value option : String)
deriving DecidableEq

/-- The error in words. -/
def UsageError.message : UsageError → String
  | unexpected argument => "error: unexpected argument '" ++ argument ++ "' found"
  | missing option => "error: a value is required for '" ++ option ++ "' but none was supplied"
  | repeated option => "error: the argument '" ++ option ++ "' cannot be used multiple times"
  | invalid value option => "error: invalid value '" ++ value ++ "' for '" ++ option ++ "'"

/-- What the arguments ask for. -/
inductive Request where
  /-- Run with these. -/
  | run (arguments : Arguments)
  /-- Show the options. -/
  | help
deriving DecidableEq

/-- A port number, with an optional sign. -/
def port? (s : String) : Option UInt16 :=
  match s.toList with
  | '-' :: digits =>
    match Text.numeral 10 Text.digitValue digits with
    | some 0 => if digits.isEmpty then none else some 0
    | _ => none
  | cs => (Text.word? 16 cs).map UInt16.ofNat

/-- The options by name: whether one has been given before, and how it takes a value, which may be
one that it does not take. -/
def option? (name : String) :
    Option ((Arguments → Bool) × (String → Arguments → Option Arguments)) :=
  match name with
  | "--config" => some (fun a => a.config.isSome, fun v a => some { a with config := some v })
  | "--bind" =>
    some (fun a => a.bind.isSome,
      fun v a => (Net.Ip.parse? v).map fun ip => { a with bind := some ip })
  | "--port" =>
    some (fun a => a.port.isSome, fun v a => (port? v).map fun p => { a with port := some p })
  | "--upstream-proxy" =>
    some (fun a => a.relay.isSome, fun v a => some { a with relay := some v })
  | "--har" => some (fun a => a.archive.isSome, fun v a => some { a with archive := some v })
  | _ => none

/-- Gives an option a value. -/
def assign (name value : String) (a : Arguments) : Except UsageError Arguments :=
  match option? name with
  | none => .error (.unexpected name)
  | some (given, set) =>
    if given a then .error (.repeated name)
    else match set value a with
      | some a => .ok a
      | none => .error (.invalid value name)

/-- Splits an argument at its equals sign, if it has one. -/
def splitValue (argument : String) : String × Option String :=
  match Text.cutFirst '=' argument.toList with
  | some (name, value) => (String.ofList name, some (String.ofList value))
  | none => (argument, none)

/-- Whether an argument can be the value of the option before it. -/
def isValue (argument : String) : Bool :=
  match argument.toList with
  | '-' :: _ :: _ => false
  | _ => true

/-- Reads arguments from left to right. The first that asks for help ends the reading. -/
def parse (a : Arguments) : List String → Except UsageError Request
  | [] => .ok (.run a)
  | ["--"] => .ok (.run a)
  | "--" :: extra :: _ => .error (.unexpected extra)
  | "--help" :: _ => .ok .help
  | argument :: rest =>
    if "-h".toList.isPrefixOf argument.toList then .ok .help
    else
      let (name, attached) := splitValue argument
      if (option? name).isNone then .error (.unexpected argument)
      else match attached with
        | some value =>
          match assign name value a with
          | .ok a => parse a rest
          | .error e => .error e
        | none =>
          match rest with
          | value :: rest =>
            if isValue value then
              match assign name value a with
              | .ok a => parse a rest
              | .error e => .error e
            else .error (.missing name)
          | [] => .error (.missing name)

/-- The help. -/
def help : String :=
  "Usage: har-proxy [OPTIONS]\n\n" ++
  "Options:\n" ++
  "      --config <CONFIG>                  Optional config TOML path\n" ++
  "      --bind <BIND>                      Bind address; overrides `general.bind`\n" ++
  "      --port <PORT>                      Listen port; overrides `general.port`\n" ++
  "      --upstream-proxy <UPSTREAM_PROXY>  Chain through another HTTP proxy, " ++
  "e.g. 10.0.0.1:3128\n" ++
  "      --har <HAR>                        Write the recorded HAR here on shutdown " ++
  "[default: capture.har]\n" ++
  "  -h, --help                             Print help\n"

end Wirelog.CommandLine
