import Wirelog.Refusal
import Wirelog.Time.Span
/-!
Limits of the traffic with servers: bandwidth in both directions, latency, and the share of each
response body that is delivered. Whatever the limits say, they count only while they are switched
on.
-/
namespace Wirelog.Pacing

/-- The way of octets between the proxy and servers. -/
inductive Direction where
  /-- To the server. -/
  | up
  /-- From the server. -/
  | down
deriving DecidableEq

/-- `ShaperSettings`: limits. A zero bandwidth or latency is no limit. -/
structure Limits where
  /-- Whether any of this counts. -/
  enabled : Bool := false
  /-- Kilobits a second to servers. -/
  upKbps : UInt64 := 0
  /-- Kilobits a second from servers. -/
  downKbps : UInt64 := 0
  /-- Milliseconds before each response. -/
  latencyMs : UInt64 := 0
  /-- Hundredths of a response body. -/
  payload : UInt8 := 100
  /-- Bits a second in either direction. -/
  maxBits : UInt64 := 0
deriving DecidableEq, Inhabited

namespace Limits

/-- The greatest number of 64 bits; larger products stop there. -/
def maxWord : Nat := UInt64.size - 1

/-- Kilobits a second in one direction. -/
def kbps (l : Limits) : Direction → Nat
  | .up => l.upKbps.toNat
  | .down => l.downKbps.toNat

/-- Octets a second that the bandwidth of a direction allows. -/
def fromKbps (l : Limits) (d : Direction) : Option Nat :=
  if l.kbps d = 0 then none else some (min (l.kbps d * 1000) maxWord / 8)

/-- Octets a second that the common bandwidth allows. -/
def fromMax (l : Limits) : Option Nat :=
  if l.maxBits.toNat = 0 then none else some (l.maxBits.toNat / 8)

/-- `ShaperSettings::bytes_per_second`: octets a second in a direction, at least one; `none` without
a limit. The smaller of two limits counts. -/
def rate? (l : Limits) (d : Direction) : Option Nat :=
  if !l.enabled then none
  else match l.fromKbps d, l.fromMax with
    | some a, some b => some (max (min a b) 1)
    | some a, none | none, some a => some (max a 1)
    | none, none => none

/-- `ShaperSettings::latency`: the wait before each response. -/
def latency? (l : Limits) : Option Time.Span :=
  if l.enabled ∧ 0 < l.latencyMs.toNat then some (Time.Span.ofMillis l.latencyMs.toNat) else none

/-- `ShaperSettings::truncated_len`: how many octets of a body are delivered. -/
def delivered (l : Limits) (length : Nat) : Nat :=
  if !l.enabled ∨ 100 ≤ l.payload.toNat then length else length * l.payload.toNat / 100

/-- `Shaper::set_payload_percentage`: checks the share of bodies. -/
def checkPayload (payload : UInt8) : Except Refusal Unit :=
  if payload.toNat ≤ 100 then .ok ()
  else .error (.badParameter "payload_percentage"
    (Text.natText payload.toNat ++ " is greater than 100"))

/-- A change of limits. -/
inductive Update where
  | up (kbps : UInt64)
  | down (kbps : UInt64)
  | latency (ms : UInt64)
  | payload (percentage : UInt8)
  | maxBits (bits : UInt64)
  | enable
  | disable

/-- The limits after a change. -/
def update (l : Limits) : Update → Except Refusal Limits
  | .up kbps => .ok { l with upKbps := kbps }
  | .down kbps => .ok { l with downKbps := kbps }
  | .latency ms => .ok { l with latencyMs := ms }
  | .payload percentage => do
    checkPayload percentage
    return { l with payload := percentage }
  | .maxBits bits => .ok { l with maxBits := bits }
  | .enable => .ok { l with enabled := true }
  | .disable => .ok { l with enabled := false }

end Limits
end Wirelog.Pacing
