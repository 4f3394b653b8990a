import Wirelog.Charset.Table.BigFive
import Wirelog.Charset.Table.Hangul
import Wirelog.Charset.Table.Jis0208
/-!
Charsets in which a character takes one or two octets: Shift_JIS, EUC-KR and Big5. Decoding is
strict: an octet that starts nothing, a pair without a character, and a lead octet at the end all
refuse the whole text.
-/
namespace Wirelog.Charset

/-- The cells of a table from its runs; empty cells hold U+FFFD. -/
def cells (size : Nat) (runs : List (Nat × String)) : Array Char :=
  runs.foldl (fun table (start, text) => (place table start text.toList).1)
    (Array.replicate size '\ufffd')
where
  /-- Writes characters into consecutive cells. -/
  place (table : Array Char) (at0 : Nat) (text : List Char) : Array Char × Nat :=
    text.foldl (fun (table, i) c => (table.set! i c, i + 1)) (table, at0)

/-- The character of a cell. -/
def cell? (table : Array Char) (n : Nat) : Option Char :=
  match table[n]? with
  | some c => if c == '\ufffd' then none else some c
  | none => none

/-- The cells of JIS X 0208. -/
def jis0208 : Array Char :=
  cells 11280 Table.jis0208

/-- The cells of KS X 1001. -/
def hangul : Array Char :=
  cells 23940 Table.koreanHangul

/-- The cells of Big5. -/
def bigFive : Array Char :=
  cells 19782 Table.big5

/-- Decodes text in which octets of a class lead a pair and all others stand alone. `back` holds
the characters so far, last one first. -/
def decodePairs (single : UInt8 → Option Char) (isLead : UInt8 → Bool)
    (pair : Nat → Nat → Option (List Char)) (back : List Char) :
    List UInt8 → Option (List Char)
  | [] => some back.reverse
  | a :: rest =>
    if isLead a then
      match rest with
      | [] => none
      | b :: rest =>
        match pair a.toNat b.toNat with
        | some cs => decodePairs single isLead pair (cs.reverse ++ back) rest
        | none => none
    else
      match single a with
      | some c => decodePairs single isLead pair (c :: back) rest
      | none => none

/-- An ASCII octet. -/
def ascii? (b : UInt8) : Option Char :=
  if b < 0x80 then some (Char.ofNat b.toNat) else none

/-- A half-width katakana of JIS X 0201. -/
def katakana? (b : UInt8) : Option Char :=
  if 0xA1 ≤ b ∧ b ≤ 0xDF then some (Char.ofNat (0xFF61 + (b.toNat - 0xA1))) else none

namespace ShiftJis

/-- A character of one octet. -/
def single (b : UInt8) : Option Char :=
  if b = 0x80 then some '\u0080' else (ascii? b).or (katakana? b)

/-- Octets that lead a pair. -/
def isLead (b : UInt8) : Bool :=
  (0x81 ≤ b && b ≤ 0x9F) || (0xE0 ≤ b && b ≤ 0xFC)

/-- A character of two octets. Rows of the users are private-use characters. -/
def pair (a b : Nat) : Option (List Char) :=
  if (0x40 ≤ b ∧ b ≤ 0x7E) ∨ (0x80 ≤ b ∧ b ≤ 0xFC) then
    let n := (a - if a < 0xA0 then 0x81 else 0xC1) * 188 + (b - if b < 0x7F then 0x40 else 0x41)
    if 8836 ≤ n ∧ n ≤ 10715 then some [Char.ofNat (0xE000 + (n - 8836))]
    else (cell? jis0208 n).map fun c => [c]
  else none

/-- Decodes Shift_JIS. -/
def decode (s : List UInt8) : Option (List Char) :=
  decodePairs single isLead pair [] s

end ShiftJis

namespace EucKr

/-- A character of two octets. -/
def pair (a b : Nat) : Option (List Char) :=
  if 0x41 ≤ b ∧ b ≤ 0xFE then (cell? hangul ((a - 0x81) * 190 + (b - 0x41))).map fun c => [c]
  else none

/-- Decodes EUC-KR. -/
def decode (s : List UInt8) : Option (List Char) :=
  decodePairs ascii? (fun b => 0x81 ≤ b && b ≤ 0xFE) pair [] s

end EucKr

namespace BigFive

/-- What two octets stand for. Four pairs are a letter with a combining mark. -/
def pair (a b : Nat) : Option (List Char) :=
  if (0x40 ≤ b ∧ b ≤ 0x7E) ∨ (0xA1 ≤ b ∧ b ≤ 0xFE) then
    match (a - 0x81) * 157 + (b - if b < 0x7F then 0x40 else 0x62) with
    | 1133 => some ['\u00ca', '\u0304']
    | 1135 => some ['\u00ca', '\u030c']
    | 1164 => some ['\u00ea', '\u0304']
    | 1166 => some ['\u00ea', '\u030c']
    | n => (cell? bigFive n).map fun c => [c]
  else none

/-- Decodes Big5. -/
def decode (s : List UInt8) : Option (List Char) :=
  decodePairs ascii? (fun b => 0x81 ≤ b && b ≤ 0xFE) pair [] s

end BigFive

end Wirelog.Charset
