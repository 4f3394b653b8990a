import Wirelog.Forward.Options
import Wirelog.Net.Ip
import Wirelog.Pacing.Limits
import Wirelog.Policy.Update
import Wirelog.Recording.Message
/-!
The settings that a proxy starts with. Every value has a default. Settings are accepted when each
of them could also be made by a control call, so a proxy that starts from accepted settings is in a
state that control calls could have brought about.
-/
namespace Wirelog

namespace Settings

/-- `GeneralConfig`: where proxies listen. -/
structure Listening where
  /-- The address. -/
  bind : Net.Ip := .v4 127 0 0 1
  /-- The port of a single proxy. -/
  port : UInt16 := 8080
  /-- The first port for proxies that ask for none. -/
  firstPort : UInt16 := 8081
  /-- The last one. -/
  lastPort : UInt16 := 8581
deriving DecidableEq

/-- `TlsConfig`: the decryption of tunnels. -/
structure Interception where
  /-- Whether tunnels are decrypted at all. -/
  enabled : Bool := true
  /-- The file of the authority's certificate. -/
  certificateFile : Option String := none
  /-- The file of the authority's key. -/
  keyFile : Option String := none
  /-- Ends of host names whose tunnels are never decrypted. -/
  exempt : List String := []
deriving DecidableEq

/-- `CaptureConfig`: what is recorded. -/
structure Capture where
  /-- Headers and cookies. -/
  headers : Bool := true
  /-- Bodies of textual types. -/
  content : Bool := false
  /-- Bodies of other types. -/
  binary : Bool := false
  /-- The identifier of the first page. -/
  firstPage : Option String := none
deriving DecidableEq

/-- `TimeoutsConfig`: limits of time in milliseconds; zero is none. -/
structure Patience where
  /-- A request as a whole. -/
  requestMs : UInt64 := 0
  /-- Each wait for octets. -/
  socketMs : UInt64 := 60000
  /-- Each attempt to connect. -/
  connectMs : UInt64 := 60000
  /-- How long addresses are remembered. -/
  addressesMs : UInt64 := 0
  /-- How often to try again to connect. -/
  retries : UInt32 := 0
deriving DecidableEq

/-- `BlacklistConfig`: a URL that is forbidden. -/
structure Forbidden where
  pattern : String
  status : UInt16 := 404
deriving DecidableEq

/-- `WhitelistConfig`: the URLs that are allowed. -/
structure Allowed where
  patterns : List String
  status : UInt16 := 403
deriving DecidableEq

/-- `RewriteConfig`: a rule that replaces parts of URLs. -/
structure Replaced where
  pattern : String
  replacement : String
deriving DecidableEq

/-- `BasicAuthConfig`: credentials for a domain. -/
structure Login where
  domain : String
  user : String
  password : String
deriving DecidableEq

/-- `RulesConfig`: what the policy is made of. -/
structure Rules where
  headerFilter : Option String := none
  /-- Headers by name. -/
  headers : List (String × String) := []
  /-- Stand-ins by host. -/
  hosts : List (String × String) := []
  forbidden : List Forbidden := []
  allowed : Option Allowed := none
  replaced : List Replaced := []
  logins : List Login := []
deriving DecidableEq

end Settings

/-- `Config`: settings. -/
structure Settings where
  listening : Settings.Listening := {}
  interception : Settings.Interception := {}
  /-- The address of the proxy to send requests through. -/
  relay : Option String := none
  /-- Take any certificate of a server. -/
  trustAll : Bool := false
  capture : Settings.Capture := {}
  patience : Settings.Patience := {}
  /-- Limits of the traffic, not checked yet. -/
  limits : Pacing.Limits := {}
  rules : Settings.Rules := {}
deriving DecidableEq

namespace Settings

instance : Inhabited Settings := ⟨{}⟩

/-- `Config::capture_settings`: the flags of the recorder. -/
def flags (s : Settings) : Recording.Flags :=
  { headers := s.capture.headers, content := s.capture.content, binary := s.capture.binary }

/-- `Config::shaper_settings`: the limits of the traffic. -/
def checkedLimits (s : Settings) : Except Refusal Pacing.Limits := do
  Pacing.Limits.checkPayload s.limits.payload
  return s.limits

/-- `Config::upstream_settings`: the options of sending requests on. -/
def options (s : Settings) : Except Refusal Forward.Options := do
  let relay ← Forward.Options.relay? s.relay
  return {
    retries := s.patience.retries
    requestLimit := Forward.Options.limit s.patience.requestMs
    socketLimit := Forward.Options.limit s.patience.socketMs
    connectLimit := Forward.Options.limit s.patience.connectMs
    relay
    trustAll := s.trustAll }

/-- The changes that make the policy, in the order in which they are made. -/
def Rules.updates (r : Rules) : List Policy.Update :=
  r.forbidden.map (fun f => .blacklist f.pattern f.status.toNat) ++
  r.allowed.toList.map (fun a => .whitelist a.patterns a.status.toNat) ++
  r.replaced.map (fun x => .substitute x.pattern x.replacement) ++
  r.hosts.map (fun (host, target) => .remap host target) ++
  r.headers.map (fun (name, value) => .addHeader name value) ++
  [.headerFilter r.headerFilter] ++
  r.logins.map (fun l => .authorize l.domain l.user l.password)

/-- `Config::apply_rules`: makes the policy, starting from another one. -/
def withRules (s : Settings) (p : Policy) : Except Refusal Policy :=
  p.updateAll s.rules.updates

/-- Checks the range of ports. -/
def checkPorts (s : Settings) : Except Refusal Unit :=
  if s.listening.firstPort.toNat ≤ s.listening.lastPort.toNat then .ok ()
  else .error (.badParameter "port_range"
    ("start " ++ Text.natText s.listening.firstPort.toNat ++ " is after end " ++
      Text.natText s.listening.lastPort.toNat))

/-- `Config::validate`: checks all settings: limits, options, ports and rules, in this order. -/
def check (s : Settings) : Except Refusal Unit := do
  let _ ← s.checkedLimits
  let _ ← s.options
  s.checkPorts
  let _ ← s.withRules {}

end Settings
end Wirelog
