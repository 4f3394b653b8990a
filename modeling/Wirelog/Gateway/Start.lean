import Wirelog.Authority.Files
import Wirelog.Gateway.Basic
import Wirelog.Settings.Basic
/-!
Starting a proxy. Rules are made first, then limits and options, then the authority, and last the
port is taken; the first failure ends the start.
-/
namespace Wirelog.Gateway

/-- Why a proxy does not start. -/
inductive StartFailure where
  /-- A rule is not accepted. -/
  | rule (refusal : Refusal)
  /-- Another setting is not accepted. -/
  | setting (refusal : Refusal)
  /-- Only one of the two files of the authority is named. -/
  | oneFile
  /-- There is no authority. -/
  | authority (failure : Authority.Failure)
  /-- The port is in use. -/
  | inUse (address : String)
  /-- The port cannot be taken for another reason. -/
  | noPort (address reason : String)
deriving DecidableEq

/-- The failure in words. -/
def StartFailure.message : StartFailure → String
  | rule r => "invalid rules: " ++ r.message
  | setting r => r.message
  | oneFile => "tls.ca_cert_path and tls.ca_key_path must be set together"
  | authority f => f.message
  | inUse address => "failed to bind " ++ address ++ ": Address already in use (os error 98)"
  | noPort address reason => "failed to bind " ++ address ++ ": " ++ reason

/-- The refusal of a setting or a rule, if this is the failure. -/
def StartFailure.refusal? : StartFailure → Option Refusal
  | rule r | setting r => some r
  | _ => none

/-- A refusal of a setting as a failure. -/
def orSetting {α : Type} : Except Refusal α → Except StartFailure α
  | .ok a => .ok a
  | .error r => .error (.setting r)

/-- The options of settings, where another address may take the place of the proxy to send requests
through. -/
def optionsFor (s : Settings) (relay : Option String) :
    Except StartFailure Forward.Options := do
  let options ← orSetting s.options
  match relay with
  | some text =>
    let relay ← orSetting (Forward.Relay.parse text)
    return { options with relay := some relay }
  | none => return options

/-- `Shared::new`: the proxy that settings make, without an authority. -/
def ofSettings (s : Settings) (relay : Option String) : Except StartFailure Gateway := do
  let policy ← match s.withRules {} with
    | .ok policy => .ok policy
    | .error r => .error (.rule r)
  let limits ← orSetting s.checkedLimits
  let options ← optionsFor s relay
  return {
    recorder := { flags := s.flags }
    policy
    limits
    options
    book := { lifetime := Time.Span.ofMillis s.patience.addressesMs.toNat }
    exempt := s.interception.exempt.map Text.asciiLower }

/-- What taking a port comes to. -/
inductive Bound where
  /-- The proxy listens on a port. -/
  | listening (port : UInt16)
  /-- The port is in use. -/
  | inUse
  /-- It cannot be taken. -/
  | refused (reason : String)
deriving DecidableEq

/-- The machine that a proxy starts on. -/
structure Machine where
  /-- Keys and certificates. -/
  toolkit : Toolkit
  /-- The number of the next authority. -/
  fresh : Nat := 0
  /-- The files of the authority. -/
  files : Authority.Files := {}
  /-- What becomes of the operations on them. -/
  access : Authority.Access := {}
  /-- Takes a port of an address; port zero is any. -/
  bind : Net.Ip → UInt16 → Bound

/-- `load_ca`: opens the authority that settings name, from its two files or as a new one that is
not written down. There is none where nothing is intercepted. -/
def openAuthority (m : Machine) (i : Settings.Interception) :
    Machine × Except StartFailure (Option Authority) :=
  let opened (m : Machine) : Except Authority.Failure Authority →
      Machine × Except StartFailure (Option Authority)
    | .ok a => ({ m with fresh := m.fresh + 1 }, .ok (some a))
    | .error f => ({ m with fresh := m.fresh + 1 }, .error (.authority f))
  if i.enabled then
    match i.certificateFile, i.keyFile with
    | some _, some _ =>
      let (files, r) := Authority.acquire m.toolkit m.access m.fresh m.files
      opened { m with files } r
    | none, none => opened m (Authority.generate m.toolkit m.fresh)
    | _, _ => (m, .error .oneFile)
  else (m, .ok none)

/-- `ProxyOptions`: where a proxy listens, and the proxy that it sends requests through in place of
the one in the settings. -/
structure Place where
  /-- The address. -/
  address : Net.Ip
  /-- The port; zero is any. -/
  port : UInt16
  /-- The other proxy. -/
  relay : Option String := none

/-- The address and port as text. -/
def Place.text (p : Place) : String :=
  p.address.withPort p.port.toNat

/-- `ProxyServer::start`: starts a proxy: the machine after it, and the proxy with its port. -/
def start (m : Machine) (s : Settings) (p : Place) :
    Machine × Except StartFailure (Gateway × UInt16) :=
  match ofSettings s p.relay with
  | .error f => (m, .error f)
  | .ok g =>
    match openAuthority m s.interception with
    | (m, .error f) => (m, .error f)
    | (m, .ok authority) =>
      match m.bind p.address p.port with
      | .listening port => (m, .ok ({ g with authority }, port))
      | .inUse => (m, .error (.inUse p.text))
      | .refused reason => (m, .error (.noPort p.text reason))

end Wirelog.Gateway
