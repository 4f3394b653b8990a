import Wirelog.Forward.Failure
import Wirelog.Net.Ip
import Wirelog.Text.Ascii
import Wirelog.Time.Span
/-!
Addresses of hosts, remembered for a while. Names are remembered in lower case; how long a name
counts is asked at the time of use, so a change of that length holds for what is remembered
already. Literal addresses stand for themselves and are never looked up or remembered.
-/
namespace Wirelog.Resolution

/-- `CachedAddrs`: the addresses of a name. -/
structure Entry where
  /-- The addresses in the order in which they were found. -/
  addresses : List Net.Ip
  /-- When they were remembered. -/
  since : Time.Span
deriving DecidableEq

/-- `DnsCache`: what is remembered. -/
structure Book where
  /-- How long a name counts; zero is not at all. -/
  lifetime : Time.Span := 0
  /-- Entries by names in lower case, each name once. -/
  entries : List (String × Entry) := []

/-- What looking a name up comes to. -/
inductive Lookup where
  /-- Addresses, possibly none. -/
  | found (addresses : List Net.Ip)
  /-- It failed. -/
  | failed (reason : String)
deriving DecidableEq

/-- `Resolved`: the addresses of a host. -/
structure Resolved where
  /-- The addresses. -/
  addresses : List Net.Ip
  /-- The port asked for. -/
  port : Nat
  /-- Nothing was looked up. -/
  cached : Bool
deriving DecidableEq

/-- The form of a name under which it is remembered. -/
def keyOf (host : String) : String :=
  Text.asciiLower host

/-- The address that a host literally is, with or without brackets. -/
def literal? (host : String) : Option Net.Ip :=
  let s := host.toList.dropWhile (· == '[')
  Net.Ip.parse? (String.ofList (s.reverse.dropWhile (· == ']')).reverse)

namespace Entry

/-- Whether an entry counts at a moment. -/
def isFresh (e : Entry) (lifetime now : Time.Span) : Bool :=
  decide (0 < lifetime ∧ now - e.since < lifetime)

end Entry

namespace Book

/-- The entry of a name. -/
def find? (b : Book) (key : String) : Option Entry :=
  (b.entries.find? (·.1 == key)).map Prod.snd

/-- `DnsCache::lookup`: the addresses that are remembered for a name and still count. -/
def remembered? (b : Book) (now : Time.Span) (key : String) : Option (List Net.Ip) :=
  ((b.find? key).filter fun e => e.isFresh b.lifetime now).map Entry.addresses

/-- `DnsCache::invalidate`: forgets a name. -/
def forget (b : Book) (host : String) : Book :=
  { b with entries := b.entries.filter fun x => !(x.1 == keyOf host) }

/-- `DnsCache::clear`: forgets everything. -/
def clear (b : Book) : Book :=
  { b with entries := [] }

/-- Remembers addresses, unless nothing is to be remembered. -/
def remember (b : Book) (now : Time.Span) (key : String) (addresses : List Net.Ip) : Book :=
  if b.lifetime = 0 then b
  else { b with entries := b.entries.filter (fun x => !(x.1 == key)) ++ [(key, ⟨addresses, now⟩)] }

/-- `DnsCache::set_ttl_ms`: changes how long names count. With zero everything is forgotten. -/
def setLifetime (b : Book) (lifetime : Time.Span) : Book :=
  if lifetime = 0 then { lifetime := 0, entries := [] } else { b with lifetime }

/-- `DnsCache::cleanup_expired`: drops the entries that do not count any more. -/
def sweep (b : Book) (now : Time.Span) : Book :=
  { b with entries := b.entries.filter fun x => x.2.isFresh b.lifetime now }

/-- The answer that needs no lookup. -/
def answer? (b : Book) (now : Time.Span) (host : String) (port : Nat) : Option Resolved :=
  match literal? host with
  | some ip => some { addresses := [ip], port, cached := true }
  | none =>
    (b.remembered? now (keyOf host)).map fun addresses => { addresses, port, cached := true }

/-- What a lookup comes to. No address at all is a failure too. -/
def accept (b : Book) (now : Time.Span) (host : String) (port : Nat) :
    Lookup → Book × Except Forward.Failure Resolved
  | .failed reason => (b, .error (.unresolved host reason))
  | .found [] => (b, .error (.unresolved host "no addresses returned"))
  | .found (a :: rest) =>
    (b.remember now (keyOf host) (a :: rest),
      .ok { addresses := a :: rest, port, cached := false })

/-- `DnsCache::resolve`: resolves a host. A lookup starts at one moment and ends at another. -/
def resolve (b : Book) (started ended : Time.Span) (lookup : String → Lookup) (host : String)
    (port : Nat) : Book × Except Forward.Failure Resolved :=
  match b.answer? started host port with
  | some r => (b, .ok r)
  | none => b.accept ended host port (lookup host)

end Book
end Wirelog.Resolution
