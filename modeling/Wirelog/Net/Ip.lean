import Wirelog.Text.Ascii
import Wirelog.Text.Split
/-!
Internet addresses and their texts. Version 4 has four decimal octets without leading zeros.
Version 6 has eight groups of at most four hexadecimal digits, of which `::` stands for a run of
zero groups and a version 4 address may take the place of the last two. Printing is canonical: lower
case, the longest run of at least two zero groups as `::`, and mapped version 4 addresses dotted.
-/
namespace Wirelog.Net

/-- An address. -/
inductive Ip where
  /-- Version 4: four octets. -/
  | v4 (a b c d : UInt8)
  /-- Version 6: eight groups. -/
  | v6 (groups : List UInt16)
deriving DecidableEq, Inhabited

namespace Ip

/-- One decimal octet: at most three digits, no leading zero unless it is the only digit. -/
def octet? (s : List Char) : Option UInt8 :=
  match s with
  | [] => none
  | '0' :: _ :: _ => none
  | _ =>
    if s.length ≤ 3 then
      match Text.numeral 10 Text.digitValue s with
      | some n => if n < 256 then some (UInt8.ofNat n) else none
      | none => none
    else none

/-- The four octets of a version 4 address. -/
def octets4? (s : List Char) : Option (UInt8 × UInt8 × UInt8 × UInt8) :=
  match (Text.splitOn '.' s).mapM octet? with
  | some [a, b, c, d] => some (a, b, c, d)
  | _ => none

/-- One group of a version 6 address. -/
def group? (s : List Char) : Option UInt16 :=
  if s.isEmpty || 4 < s.length then none
  else (Text.numeral 16 Text.hexValue s).map UInt16.ofNat

/-- A row of groups between colons, the last two of which may be a dotted address. The empty text is
the empty row. -/
def groups? (s : List Char) : Option (List UInt16) :=
  if s.isEmpty then some []
  else go (Text.splitOn ':' s)
where
  /-- Reads the fields of a row that has at least one. -/
  go : List (List Char) → Option (List UInt16)
    | [] => some []
    | [last] =>
      match octets4? last with
      | some (a, b, c, d) =>
        some [UInt16.ofNat (a.toNat * 256 + b.toNat), UInt16.ofNat (c.toNat * 256 + d.toNat)]
      | none => (group? last).map ([·])
    | f :: rest => do
      let g ← group? f
      let gs ← go rest
      some (g :: gs)

/-- Whether a row of fields has a dotted part. -/
def hasDot (s : List Char) : Bool :=
  s.contains '.'

/-- Cuts at the first `::`. -/
def cutGap : List Char → Option (List Char × List Char)
  | ':' :: ':' :: rest => some ([], rest)
  | c :: rest => (cutGap rest).map fun (a, b) => (c :: a, b)
  | [] => none

/-- Reads a version 6 address. -/
def groups6? (s : List Char) : Option (List UInt16) :=
  match cutGap s with
  | none =>
    match groups? s with
    | some gs => if gs.length = 8 then some gs else none
    | none => none
  | some (front, back) =>
    if hasDot front then none
    else
      match groups? front, groups? back with
      | some f, some b =>
        if f.length + b.length ≤ 7 then
          some (f ++ List.replicate (8 - f.length - b.length) 0 ++ b)
        else none
      | _, _ => none

/-- Reads an address of either version. -/
def parse? (s : String) : Option Ip :=
  match octets4? s.toList with
  | some (a, b, c, d) => some (.v4 a b c d)
  | none => (groups6? s.toList).map .v6

/-- The dotted text of four octets. -/
def dotted (a b c d : UInt8) : String :=
  Text.natText a.toNat ++ "." ++ Text.natText b.toNat ++ "." ++ Text.natText c.toNat ++ "." ++
    Text.natText d.toNat

/-- A group in lower-case hexadecimal digits. -/
def groupText (g : UInt16) : String :=
  String.ofList (Nat.toDigits 16 g.toNat)

/-- Groups between colons. -/
def rowText (gs : List UInt16) : String :=
  ":".intercalate (gs.map groupText)

/-- The length of the run of zero groups at the head of a row. -/
def zeroRun (gs : List UInt16) : Nat :=
  (gs.takeWhile (· == 0)).length

/-- The first longest run of zero groups: where it starts and how long it is. -/
def longestRun (gs : List UInt16) : Nat × Nat :=
  (List.range gs.length).foldl
    (fun (best : Nat × Nat) i =>
      let n := zeroRun (gs.drop i)
      if best.2 < n then (i, n) else best) (0, 0)

/-- The text of an address. -/
def text : Ip → String
  | .v4 a b c d => dotted a b c d
  | .v6 gs =>
    match gs with
    | [0, 0, 0, 0, 0, 0xFFFF, x, y] =>
      "::ffff:" ++ dotted (UInt8.ofNat (x.toNat / 256)) (UInt8.ofNat (x.toNat % 256))
        (UInt8.ofNat (y.toNat / 256)) (UInt8.ofNat (y.toNat % 256))
    | _ =>
      let (start, len) := longestRun gs
      if len < 2 then rowText gs
      else rowText (gs.take start) ++ "::" ++ rowText (gs.drop (start + len))

/-- The text of an address with a port; version 6 stands in brackets. -/
def withPort (ip : Ip) (port : Nat) : String :=
  match ip with
  | .v4 .. => ip.text ++ ":" ++ Text.natText port
  | .v6 _ => "[" ++ ip.text ++ "]:" ++ Text.natText port

end Ip
end Wirelog.Net
