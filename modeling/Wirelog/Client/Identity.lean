import Wirelog.Bytes
/-!
Identifiers made of random octets, in the form of five groups of hexadecimal digits. Four bits tell
that the identifier is random, and two which layout it has.
-/
namespace Wirelog.Client

/-- One hexadecimal digit in lower case. -/
def hexDigit (n : Nat) : Char :=
  if n < 10 then Char.ofNat (48 + n) else Char.ofNat (87 + n)

/-- The two digits of an octet. -/
def hexOctet (b : UInt8) : List Char :=
  [hexDigit (b.toNat / 16), hexDigit (b.toNat % 16)]

/-- The octets of an identifier: sixteen, two of which are marked. Missing ones are zero. -/
def marked (random : List UInt8) : List UInt8 :=
  let l := (random ++ List.replicate 16 0).take 16
  (l.modify 6 fun b => b % 16 + 64).modify 8 fun b => b % 64 + 128

/-- The identifier made of random octets. -/
def identity (random : List UInt8) : String :=
  let digits := (marked random).flatMap hexOctet
  let group (start size : Nat) : List Char := (digits.drop start).take size
  String.ofList (group 0 8 ++ '-' :: group 8 4 ++ '-' :: group 12 4 ++ '-' :: group 16 4 ++
    '-' :: group 20 12)

end Wirelog.Client
