/-!
The octets that travel in bodies and header values. Laws are stated on the list of octets.
-/
namespace Wirelog

/-- The octets of a body or of a header value. -/
abbrev Bytes := ByteArray

namespace Bytes

/-- Octets are equal when they are the same in the same order. -/
instance instDecidableEqBytes : DecidableEq Bytes :=
  ByteArray.decEq

/-- The octets as a list, the view in which laws are stated. -/
def octets (b : Bytes) : List UInt8 :=
  b.data.toList

/-- The octets of a list. -/
def ofOctets (l : List UInt8) : Bytes :=
  ⟨l.toArray⟩

/-- The UTF-8 form of a text. -/
def ofText (s : String) : Bytes :=
  s.toUTF8

/-- The text whose UTF-8 form these octets are. -/
def toText? (b : Bytes) : Option String :=
  String.fromUTF8? b

@[simp] theorem octets_ofOctets (l : List UInt8) : octets (ofOctets l) = l := by
  simp [octets, ofOctets]

@[simp] theorem ofOctets_octets (b : Bytes) : ofOctets (octets b) = b := by
  simp [octets, ofOctets]

theorem fromUTF8_toUTF8 (s : String) : String.fromUTF8? s.toUTF8 = some s :=
  dif_pos s.isValidUTF8

theorem toText_ofText (s : String) : toText? (ofText s) = some s :=
  fromUTF8_toUTF8 s

end Bytes

end Wirelog
