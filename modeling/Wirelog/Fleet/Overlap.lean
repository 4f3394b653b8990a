import Wirelog.Net.Ip
/-!
Creation and deletion of proxies that overlap. A creation looks whether its port is registered,
takes the port from the system, and registers the proxy; a deletion takes the proxy out of the
register and then gives its port back. Other steps may fall between any two of these.
-/
namespace Wirelog.Fleet.Overlap

/-- Ports that a creation may take. -/
inductive Wish where
  /-- One port; zero is any. -/
  | port (port : UInt16)
  /-- The first that is free of a row. -/
  | first (ports : List UInt16)
deriving DecidableEq

/-- How far a creation has come. -/
inductive Progress where
  /-- It looks whether the next port is registered. -/
  | looking (wish : Wish)
  /-- It takes the next port. -/
  | taking (wish : Wish)
  /-- It has taken a port. -/
  | taken (port : UInt16)
  /-- It has registered its proxy on a port. -/
  | created (port : UInt16)
  /-- It failed. -/
  | failed
deriving DecidableEq

/-- A creation. The number of a proxy is the number of its creation. -/
structure Creation where
  /-- The address. -/
  address : Net.Ip
  /-- How far it has come. -/
  progress : Progress
deriving DecidableEq

/-- A port of an address that is in use by a proxy. -/
structure Socket where
  /-- The address. -/
  address : Net.Ip
  /-- The port. -/
  port : UInt16
  /-- The number of the proxy. -/
  owner : Nat
deriving DecidableEq

/-- A fleet while calls overlap. -/
structure Yard where
  /-- The numbers of the proxies by their ports, each port once. -/
  registry : List (UInt16 × Nat) := []
  /-- The ports in use. -/
  sockets : List Socket := []
  /-- All creations so far. -/
  creations : List Creation := []
  /-- The numbers of the proxies that are out of the register and still have their ports. -/
  stopping : List Nat := []

/-- What happens next. -/
inductive Event where
  /-- A creation begins. -/
  | create (address : Net.Ip) (wish : Wish)
  /-- A creation goes on by one step. Asked for a port, the system chooses one where any will do;
  zero is that it gives none. -/
  | advance (creation : Nat) (chosen : UInt16)
  /-- A creation that has no port yet fails for a reason that has nothing to do with ports. -/
  | fail (creation : Nat)
  /-- A deletion takes the proxy on a port out of the register. -/
  | delete (port : UInt16)
  /-- A deleted proxy gives its port back. -/
  | stop (owner : Nat)

namespace Yard

/-- The number of the proxy on a port. -/
def get? (y : Yard) (port : UInt16) : Option Nat :=
  (y.registry.find? (·.1 == port)).map Prod.snd

/-- The registered ports in ascending order. -/
def list (y : Yard) : List UInt16 :=
  (y.registry.map Prod.fst).mergeSort fun a b => a ≤ b

/-- Whether a port of an address is in use. -/
def inUse (y : Yard) (address : Net.Ip) (port : UInt16) : Bool :=
  y.sockets.any fun s => s.address == address && s.port == port

/-- Changes how far a creation has come. -/
def setProgress (y : Yard) (i : Nat) (progress : Progress) : Yard :=
  { y with creations := y.creations.modify i fun c => { c with progress } }

/-- Takes a port for a creation. -/
def take (y : Yard) (i : Nat) (address : Net.Ip) (port : UInt16) : Yard :=
  let y : Yard := { y with sockets := y.sockets ++ [⟨address, port, i⟩] }
  y.setProgress i (.taken port)

/-- Registers the proxy of a creation, in place of any on its port. -/
def register (y : Yard) (i : Nat) (port : UInt16) : Yard :=
  let y : Yard :=
    { y with registry := y.registry.filter (fun x => !(x.1 == port)) ++ [(port, i)] }
  y.setProgress i (.created port)

/-- The port that the system gives to one who asks for a port, or for any by asking for zero. -/
def given (port chosen : UInt16) : UInt16 :=
  if port = 0 ∨ chosen = 0 then chosen else port

/-- `ProxyManager::create`: the next step of a creation. -/
def advance (y : Yard) (i : Nat) (chosen : UInt16) : Yard :=
  match y.creations[i]? with
  | none => y
  | some c =>
    match c.progress with
    | .looking (.port port) =>
      if port ≠ 0 ∧ (y.get? port).isSome then y.setProgress i .failed
      else y.setProgress i (.taking (.port port))
    | .looking (.first []) => y.setProgress i .failed
    | .looking (.first (port :: rest)) =>
      if (y.get? port).isSome then y.setProgress i (.looking (.first rest))
      else y.setProgress i (.taking (.first (port :: rest)))
    | .taking (.port port) =>
      let port := given port chosen
      if port = 0 ∨ y.inUse c.address port then y.setProgress i .failed
      else y.take i c.address port
    | .taking (.first []) => y.setProgress i .failed
    | .taking (.first (port :: rest)) =>
      let port := given port chosen
      if port = 0 ∨ y.inUse c.address port then y.setProgress i (.looking (.first rest))
      else y.take i c.address port
    | .taken port => y.register i port
    | .created _ | .failed => y

/-- Ends a creation that has no port yet. -/
def abandon (y : Yard) (i : Nat) : Yard :=
  match (y.creations[i]?).map Creation.progress with
  | some (.looking _) | some (.taking _) => y.setProgress i .failed
  | some (.taken _) | some (.created _) | some .failed | none => y

/-- One event. -/
def step (y : Yard) : Event → Yard
  | .create address wish =>
    { y with creations := y.creations ++ [{ address, progress := .looking wish }] }
  | .advance i chosen => y.advance i chosen
  | .fail i => y.abandon i
  | .delete port =>
    { y with
      registry := y.registry.filter fun x => !(x.1 == port)
      stopping := y.stopping ++ (y.get? port).toList }
  | .stop owner =>
    if y.stopping.contains owner then
      { y with
        sockets := y.sockets.filter fun s => !(s.owner == owner)
        stopping := y.stopping.filter fun n => !(n == owner) }
    else y

/-- Several events. -/
def run (y : Yard) (events : List Event) : Yard :=
  events.foldl step y

end Yard
end Wirelog.Fleet.Overlap
