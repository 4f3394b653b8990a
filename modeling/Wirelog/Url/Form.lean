import Wirelog.Text.Utf8
import Wirelog.Text.Ascii
/-!
`application/x-www-form-urlencoded`: fields between ampersands, a name and a value between which
the first equals sign stands, `+` for a blank and `%hh` for an octet. A blank is put in place of
`+` before octets are decoded, so an encoded plus sign stays one.
-/
namespace Wirelog.Url

/-- The octet of a hexadecimal digit's character. -/
def hexOctet (b : UInt8) : Option Nat :=
  Text.hexValue (Char.ofNat b.toNat)

/-- Replaces `%hh` by the octet it stands for; a percent sign without two digits stays. -/
def percentDecode : List UInt8 → List UInt8
  | [] => []
  | 0x25 :: a :: b :: rest =>
    match hexOctet a, hexOctet b with
    | some x, some y => UInt8.ofNat (x * 16 + y) :: percentDecode rest
    | _, _ => 0x25 :: percentDecode (a :: b :: rest)
  | a :: rest => a :: percentDecode rest

/-- The pieces of an octet list between separators. -/
def fields (sep : UInt8) : List UInt8 → List (List UInt8)
  | [] => [[]]
  | b :: rest =>
    if b == sep then [] :: fields sep rest
    else match fields sep rest with
      | [] => [[b]]
      | f :: fs => (b :: f) :: fs

/-- The two sides of the first equals sign; without one, all is the name. -/
def nameAndValue (field : List UInt8) : List UInt8 × List UInt8 :=
  let name := field.takeWhile (· != 0x3D)
  (name, (field.drop name.length).drop 1)

/-- One side of a field as text. -/
def formText (s : List UInt8) : String :=
  Text.lossy (Bytes.ofOctets (percentDecode (s.map fun b => if b == 0x2B then 0x20 else b)))

/-- The name-value pairs of a form; empty fields are skipped. -/
def formPairs (s : List UInt8) : List (String × String) :=
  ((fields 0x26 s).filter (!·.isEmpty)).map fun f =>
    let (name, value) := nameAndValue f
    (formText name, formText value)

end Wirelog.Url
