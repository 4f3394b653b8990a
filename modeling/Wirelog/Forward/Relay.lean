import Wirelog.Refusal
import Wirelog.Text.Blank
import Wirelog.Text.Split
/-!
Addresses of other proxies that requests are sent through. An address is a host and a port, which
may be dressed up as an `http` URL without a path.
-/
namespace Wirelog.Forward

/-- `ProxyAddr`: the address of a proxy. -/
structure Relay where
  /-- The host as written. -/
  host : String
  /-- The port. -/
  port : UInt16
deriving DecidableEq, Inhabited

namespace Relay

/-- Drops a leading part as often as it is there. `fuel` bounds how often; the length of the text is
enough. -/
def dropAll (lead : List Char) : Nat → List Char → List Char
  | 0, s => s
  | fuel + 1, s =>
    match Text.dropPrefix? lead s with
    | some rest => dropAll lead fuel rest
    | none => s

/-- An address without blanks, schemes and slashes around it. -/
def bare (s : List Char) : List Char :=
  let s := Text.trimList s
  Text.dropTail (· == '/') (dropAll "http://".toList s.length s)

/-- The refusal of an address. -/
def refuse (reason : String) : Refusal :=
  .badParameter "upstream_proxy" reason

/-- `ProxyAddr::from_str`: reads an address. -/
def parse (text : String) : Except Refusal Relay :=
  match Text.cutLast ':' (bare text.toList) with
  | none => .error (refuse ("'" ++ text ++ "' is not host:port"))
  | some (host, digits) =>
    match Text.word? 16 digits with
    | none => .error (refuse ("invalid port in '" ++ text ++ "'"))
    | some port =>
      if host.isEmpty ∨ port = 0 then .error (refuse ("'" ++ text ++ "' is not host:port"))
      else .ok ⟨String.ofList host, UInt16.ofNat port⟩

/-- The address as text. -/
def text (r : Relay) : String :=
  r.host ++ ":" ++ Text.natText r.port.toNat

end Relay
end Wirelog.Forward
