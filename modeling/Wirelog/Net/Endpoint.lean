import Wirelog.Net.Ip
/-!
Endpoints: an address with a port. A version 6 address stands in brackets, where a `%` and a number
may follow that name the zone of a link-local address. The zone zero is not written.
-/
namespace Wirelog.Net

/-- An address with a port. -/
structure Endpoint where
  /-- The address. -/
  ip : Ip
  /-- The zone of a version 6 address. -/
  zone : Nat := 0
  /-- The port. -/
  port : Nat
deriving DecidableEq, Inhabited

namespace Endpoint

/-- A number of at least one digit that fits a width, leading zeros allowed. -/
def number? (width : Nat) (s : List Char) : Option Nat :=
  if s.isEmpty then none
  else
    match Text.numeral 10 Text.digitValue s with
    | some n => if n < 1 <<< width then some n else none
    | none => none

/-- Reads what stands in the brackets: a version 6 address and its zone. -/
def zoned? (s : List Char) : Option (Ip × Nat) :=
  match Text.cutFirst '%' s with
  | some (groups, zone) => do
    let groups ← Ip.groups6? groups
    let zone ← number? 32 zone
    some (.v6 groups, zone)
  | none => (Ip.groups6? s).map fun groups => (.v6 groups, 0)

/-- Reads an endpoint. -/
def parse? (s : String) : Option Endpoint := do
  let (host, port) ← Text.cutLast ':' s.toList
  let port ← number? 16 port
  match host with
  | '[' :: rest =>
    let (ip, zone) ← zoned? (← Text.dropSuffix? [']'] rest)
    some { ip, zone, port }
  | _ =>
    let (a, b, c, d) ← Ip.octets4? host
    some { ip := .v4 a b c d, port }

/-- The text of an endpoint. -/
def text (e : Endpoint) : String :=
  match e.ip, e.zone with
  | .v6 groups, zone + 1 =>
    "[" ++ (Ip.v6 groups).text ++ "%" ++ Text.natText (zone + 1) ++ "]:" ++ Text.natText e.port
  | ip, _ => ip.withPort e.port

end Endpoint
end Wirelog.Net
