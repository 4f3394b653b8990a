import Wirelog.Charset.DoubleByte
import Wirelog.Charset.Table.Guobiao
import Wirelog.Charset.Table.GuobiaoRanges
import Wirelog.Charset.Table.Jis0212
/-!
Charsets with characters of more than two octets or with switching sequences: EUC-JP, GB 18030 and
ISO-2022-JP. Decoding is strict, as for the other charsets.
-/
namespace Wirelog.Charset

/-- The cells of JIS X 0212. -/
def jis0212 : Array Char :=
  cells 8836 Table.jis0212

/-- The cells of the two-octet rows of GB 18030. -/
def guobiao : Array Char :=
  cells 23940 Table.gb18030

/-- An octet of the upper plane of a 94 by 94 table. -/
def inPlane (b : UInt8) : Bool :=
  0xA1 ≤ b && b ≤ 0xFE

/-- The cell of two octets of the upper plane. -/
def planeCell (a b : UInt8) : Nat :=
  (a.toNat - 0xA1) * 94 + (b.toNat - 0xA1)

namespace EucJp

/-- A character of two octets: katakana after a shift, or a pair of a table given by its cells. -/
def pair? (basic : Nat → Option Char) (a b : UInt8) : Option Char :=
  if a = 0x8E then katakana? b
  else if inPlane a && inPlane b then basic (planeCell a b)
  else none

/-- Reads EUC-JP: ASCII, characters of two octets, and pairs of a second table after a shift of its
own. `back` holds the characters so far, last one first. -/
def read (basic supplement : Nat → Option Char) (back : List Char) :
    List UInt8 → Option (List Char)
  | [] => some back.reverse
  | 0x8F :: a :: b :: rest =>
    if inPlane a && inPlane b then
      match supplement (planeCell a b) with
      | some c => read basic supplement (c :: back) rest
      | none => none
    else none
  | a :: rest =>
    if a < 0x80 then read basic supplement (Char.ofNat a.toNat :: back) rest
    else
      match rest with
      | [] => none
      | b :: rest =>
        match pair? basic a b with
        | some c => read basic supplement (c :: back) rest
        | none => none

/-- Decodes EUC-JP with JIS X 0208 and JIS X 0212. -/
def decode (s : List UInt8) : Option (List Char) :=
  read (cell? jis0208) (cell? jis0212) [] s

end EucJp

namespace Guobiao

/-- The character of a four-octet sequence by its number. One lies outside the ranges. -/
def ranged? (n : Nat) : Option Char :=
  if (39419 < n ∧ n < 189000) ∨ 1237575 < n then none
  else if n = 7457 then some '\ue7c7'
  else if 189000 ≤ n then some (Char.ofNat (0x10000 + (n - 189000)))
  else
    ((Table.gb18030Ranges.takeWhile fun r => r.1 ≤ n).getLast?).map fun r =>
      Char.ofNat (r.2 + (n - r.1))

/-- Reads GB 18030: ASCII, the euro sign, pairs, and sequences of four octets. What the latter two
stand for is given by their numbers; `back` holds the characters so far, last one first. -/
def read (pair four : Nat → Option Char) (back : List Char) : List UInt8 → Option (List Char)
  | [] => some back.reverse
  | a :: rest =>
    if a < 0x80 then read pair four (Char.ofNat a.toNat :: back) rest
    else if a = 0x80 then read pair four ('€' :: back) rest
    else if a = 0xFF then none
    else
      match rest with
      | [] => none
      | b :: rest =>
        if 0x30 ≤ b ∧ b ≤ 0x39 then
          match rest with
          | c :: d :: rest =>
            if 0x81 ≤ c ∧ c ≤ 0xFE ∧ 0x30 ≤ d ∧ d ≤ 0x39 then
              let n := (((a.toNat - 0x81) * 10 + (b.toNat - 0x30)) * 126 + (c.toNat - 0x81)) * 10 +
                (d.toNat - 0x30)
              match four n with
              | some ch => read pair four (ch :: back) rest
              | none => none
            else none
          | _ => none
        else if (0x40 ≤ b ∧ b ≤ 0x7E) ∨ (0x80 ≤ b ∧ b ≤ 0xFE) then
          let n := (a.toNat - 0x81) * 190 + (b.toNat - if b < 0x7F then 0x40 else 0x41)
          match pair n with
          | some ch => read pair four (ch :: back) rest
          | none => none
        else none

/-- Decodes GB 18030. -/
def decode (s : List UInt8) : Option (List Char) :=
  read (cell? guobiao) ranged? [] s

end Guobiao

namespace Iso2022Jp

/-- The character sets that switching sequences choose. -/
inductive Plane where
  | ascii
  | roman
  | katakana
  | kanji
deriving DecidableEq

/-- The set that a switching sequence chooses by its two octets after the escape. -/
def chosen? (a b : UInt8) : Option Plane :=
  if a = 0x28 ∧ b = 0x42 then some .ascii
  else if a = 0x28 ∧ b = 0x4A then some .roman
  else if a = 0x28 ∧ b = 0x49 then some .katakana
  else if a = 0x24 ∧ (b = 0x40 ∨ b = 0x42) then some .kanji
  else none

/-- A character of a set in which each takes one octet. -/
def single? (plane : Plane) (b : UInt8) : Option Char :=
  match plane with
  | .katakana =>
    if 0x21 ≤ b ∧ b ≤ 0x5F then some (Char.ofNat (0xFF61 + (b.toNat - 0x21))) else none
  | .kanji => none
  | _ =>
    if 0x80 ≤ b ∨ b = 0x0E ∨ b = 0x0F then none
    else if plane = .roman ∧ b = 0x5C then some '¥'
    else if plane = .roman ∧ b = 0x7E then some '‾'
    else some (Char.ofNat b.toNat)

/-- Reads ISO-2022-JP under a set, with kanji given by the cells of a table. Two switching sequences
may not directly follow one another: `switched` tells that the last thing read was one. -/
def read (kanji : Nat → Option Char) (plane : Plane) (switched : Bool) (back : List Char) :
    List UInt8 → Option (List Char)
  | [] => some back.reverse
  | 0x1B :: a :: b :: rest =>
    match chosen? a b with
    | some plane => if switched then none else read kanji plane true back rest
    | none => none
  | a :: rest =>
    if a = 0x1B then none
    else if plane = .kanji then
      match rest with
      | b :: rest =>
        if 0x21 ≤ a ∧ a ≤ 0x7E ∧ 0x21 ≤ b ∧ b ≤ 0x7E then
          match kanji ((a.toNat - 0x21) * 94 + (b.toNat - 0x21)) with
          | some c => read kanji plane false (c :: back) rest
          | none => none
        else none
      | [] => none
    else
      match single? plane a with
      | some c => read kanji plane false (c :: back) rest
      | none => none

/-- Decodes ISO-2022-JP, which begins in ASCII, with JIS X 0208. -/
def decode (s : List UInt8) : Option (List Char) :=
  read (cell? jis0208) .ascii false [] s

end Iso2022Jp

end Wirelog.Charset
