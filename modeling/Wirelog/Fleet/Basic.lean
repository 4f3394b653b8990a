import Wirelog.Gateway.Start
/-!
Several proxies in one program, each known by the port on which it listens. A proxy may ask for a
port of its own; otherwise the first port of a range is taken that is free.
-/
namespace Wirelog

namespace Fleet

/-- A proxy of a fleet. -/
structure Member where
  /-- The address on which it listens. -/
  address : Net.Ip
  /-- The port on which it listens. -/
  port : UInt16
  /-- The proxy. -/
  gateway : Gateway

/-- `CreateOptions`: what a new proxy is to be like. Whatever is left out comes from the settings,
and these from the defaults of the fleet. -/
structure Order where
  /-- Its settings. -/
  settings : Option Settings := none
  /-- Its port; zero is any. -/
  port : Option UInt16 := none
  /-- Its address. -/
  address : Option Net.Ip := none
  /-- The proxy that it sends requests through. -/
  relay : Option String := none

/-- Why there is no new proxy. -/
inductive Failure where
  /-- There is one on the port. -/
  | registered (port : UInt16)
  /-- The settings are not accepted. -/
  | settings (refusal : Refusal)
  /-- The address of the other proxy is not accepted. -/
  | relay (refusal : Refusal)
  /-- It did not start. -/
  | start (failure : Gateway.StartFailure)
  /-- No port of the range is free. -/
  | noFreePort (first last : UInt16)
deriving DecidableEq

/-- The failure in words. -/
def Failure.message : Failure → String
  | registered port => "a proxy is already registered on port " ++ Text.natText port.toNat
  | settings r => "invalid proxy configuration: " ++ r.message
  | relay r => "invalid upstream proxy: " ++ r.message
  | start f => f.message
  | noFreePort first last =>
    "cannot allocate a proxy port: no free port in " ++ Text.natText first.toNat ++ "..=" ++
      Text.natText last.toNat

end Fleet

/-- `ProxyManager`: a fleet. -/
structure Fleet where
  /-- The settings of proxies that bring none of their own. -/
  defaults : Settings := {}
  /-- The proxies by their ports, each port once. -/
  members : List (UInt16 × Fleet.Member) := []

namespace Fleet

/-- `ProxyManager::get`: the proxy on a port. -/
def get? (f : Fleet) (port : UInt16) : Option Member :=
  (f.members.find? (·.1 == port)).map Prod.snd

/-- Enters a proxy under its port, in place of any that stands there. -/
def register (f : Fleet) (m : Member) : Fleet :=
  { f with members := f.members.filter (fun x => !(x.1 == m.port)) ++ [(m.port, m)] }

/-- `ProxyManager::delete`: takes the proxy on a port out: the fleet without it, and whether there
was one. -/
def delete (f : Fleet) (port : UInt16) : Fleet × Bool :=
  ({ f with members := f.members.filter fun x => !(x.1 == port) }, (f.get? port).isSome)

/-- `ProxyManager::list`: the ports in ascending order. -/
def list (f : Fleet) : List UInt16 :=
  (f.members.map Prod.fst).mergeSort fun a b => a ≤ b

/-- The ports of a range in order. -/
def range (first last : UInt16) : List UInt16 :=
  (List.range' first.toNat (last.toNat + 1 - first.toNat)).map UInt16.ofNat

/-- A member made of a proxy that has started. -/
def started (address : Net.Ip) (r : Gateway × UInt16) : Member :=
  { address, port := r.2, gateway := r.1 }

/-- Starts a proxy on the first port of a row that is neither registered nor in use. Any failure
but a port in use ends the search. -/
def startOnFirst (f : Fleet) (s : Settings) (address : Net.Ip) (relay : Option String)
    (none : Failure) : List UInt16 → Gateway.Machine → Gateway.Machine × Except Failure Member
  | [], m => (m, .error none)
  | port :: rest, m =>
    if (f.get? port).isSome then startOnFirst f s address relay none rest m
    else match Gateway.start m s { address, port, relay } with
      | (m, .ok r) => (m, .ok (started address r))
      | (m, .error (.inUse _)) => startOnFirst f s address relay none rest m
      | (m, .error failure) => (m, .error (.start failure))

/-- `ProxyManager::start_in_range`: starts a proxy on a port of the range of its settings. -/
def startOnFree (f : Fleet) (m : Gateway.Machine) (s : Settings) (address : Net.Ip)
    (relay : Option String) : Gateway.Machine × Except Failure Member :=
  match s.check, Forward.Options.relay? relay with
  | .error r, _ => (m, .error (.settings r))
  | .ok _, .error r => (m, .error (.relay r))
  | .ok _, .ok _ =>
    f.startOnFirst s address relay
      (.noFreePort s.listening.firstPort s.listening.lastPort)
      (range s.listening.firstPort s.listening.lastPort) m

/-- Starts a proxy on the port that it asks for. -/
def startOn (f : Fleet) (m : Gateway.Machine) (s : Settings) (p : Gateway.Place) :
    Gateway.Machine × Except Failure Member :=
  if p.port ≠ 0 ∧ (f.get? p.port).isSome then (m, .error (.registered p.port))
  else match Gateway.start m s p with
    | (m, .ok r) => (m, .ok (started p.address r))
    | (m, .error failure) => (m, .error (.start failure))

/-- `ProxyManager::create`: starts a proxy and enters it. -/
def create (f : Fleet) (m : Gateway.Machine) (o : Order) :
    Gateway.Machine × Fleet × Except Failure Member :=
  let s := o.settings.getD f.defaults
  let address := o.address.getD s.listening.bind
  let (m, r) := match o.port with
    | some port => f.startOn m s { address, port, relay := o.relay }
    | none => f.startOnFree m s address o.relay
  match r with
  | .ok member => (m, f.register member, .ok member)
  | .error failure => (m, f, .error failure)

end Fleet
end Wirelog
