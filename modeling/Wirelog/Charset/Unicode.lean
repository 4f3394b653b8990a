import Wirelog.Bytes
/-!
Text in 16-bit units, and octets whose upper half is mapped to private-use characters. No byte order
mark is looked for: the charset alone gives the order of octets.
-/
namespace Wirelog.Charset

/-- The 16-bit units of octets in either order; `none` when one octet is left over. -/
def units (bigEndian : Bool) (back : List Nat) : List UInt8 → Option (List Nat)
  | [] => some back.reverse
  | [_] => none
  | a :: b :: rest =>
    units bigEndian
      ((if bigEndian then a.toNat * 256 + b.toNat else b.toNat * 256 + a.toNat) :: back) rest

/-- The characters of 16-bit units; `none` when a surrogate stands alone. -/
def ofUnits (back : List Char) : List Nat → Option (List Char)
  | [] => some back.reverse
  | u :: rest =>
    if 0xD800 ≤ u ∧ u ≤ 0xDBFF then
      match rest with
      | v :: rest =>
        if 0xDC00 ≤ v ∧ v ≤ 0xDFFF then
          ofUnits (Char.ofNat (0x10000 + (u - 0xD800) * 1024 + (v - 0xDC00)) :: back) rest
        else none
      | [] => none
    else if 0xDC00 ≤ u ∧ u ≤ 0xDFFF then none
    else ofUnits (Char.ofNat u :: back) rest

/-- Decodes UTF-16. -/
def decodeUtf16 (bigEndian : Bool) (s : List UInt8) : Option (List Char) :=
  (units bigEndian [] s).bind (ofUnits [])

/-- Decodes octets one by one, the upper half into private-use characters. -/
def decodeUserDefined (s : List UInt8) : List Char :=
  s.map fun b => if b < 0x80 then Char.ofNat b.toNat else Char.ofNat (0xF780 + (b.toNat - 0x80))

end Wirelog.Charset
