import Wirelog.Net.Ip
import Wirelog.Text.Ranges
import Wirelog.Text.Utf8
import Wirelog.Url.Form
import Wirelog.Url.Punycode
import Wirelog.Url.Table.Excluded
/-!
Hosts of URLs: domain names, which may be written with characters beyond ASCII, numeric addresses,
and version 6 addresses in brackets. A name that ends in a number is a numeric address or nothing.
-/
namespace Wirelog.Url

/-- Tabs and line ends, which are dropped everywhere. -/
def isIgnored (c : Char) : Bool :=
  c == '\t' || c == '\n' || c == '\r'

/-- Characters that no host may hold. -/
def isForbiddenInHost (c : Char) : Bool :=
  c.toNat == 0 || isIgnored c || " #/:<>?@[\\]^|".toList.contains c

/-- The characters beyond ASCII that stand in no domain name. -/
def excluded : Array (Nat × Nat) :=
  Text.parseRanges Table.excluded

/-- Characters that no domain name may hold. -/
def isForbiddenInDomain (c : Char) : Bool :=
  isForbiddenInHost c || c.toNat < 0x20 || c == '%' || c.toNat == 0x7F || Text.inRanges excluded c

/-- Characters that make no difference in a domain name: soft hyphens, joiners without width and
selectors of variants. -/
def isTransparent (c : Char) : Bool :=
  let n := c.toNat
  [0xAD, 0x34F, 0x180F, 0x200B, 0x2060, 0x2064, 0xFEFF].contains n ||
    (0x180B ≤ n && n ≤ 0x180D) || (0xFE00 ≤ n && n ≤ 0xFE0F) || (0x1BCA0 ≤ n && n ≤ 0x1BCA3) ||
    (0xE0100 ≤ n && n ≤ 0xE01EF)

/-- A character of a domain name in the form in which names compare: full-width forms of ASCII
characters, ideographic full stops and letter case are evened out. -/
def foldDomainChar (c : Char) : Char :=
  let n := c.toNat
  if 0xFF01 ≤ n ∧ n ≤ 0xFF5E then (Char.ofNat (n - 0xFEE0)).toLower
  else if n = 0x3002 ∨ n = 0xFF61 then '.'
  else c.toLower

/-- A number of a numeric host: decimal, octal after `0`, hexadecimal after `0x`. -/
def hostNumber? (s : List Char) : Option Nat :=
  match s with
  | [] => none
  | '0' :: 'x' :: rest | '0' :: 'X' :: rest => Text.numeral 16 Text.hexValue rest
  | '0' :: d :: rest => Text.numeral 8 Text.digitValue (d :: rest)
  | _ => Text.numeral 10 Text.digitValue s

/-- The labels of a name, without the empty one after a final dot. -/
def labels (s : List Char) : List (List Char) :=
  let all := Text.splitOn '.' s
  if 1 < all.length && all.getLast? == some [] then all.dropLast else all

/-- Whether a name ends in a number, and so can only be a numeric address. -/
def endsInNumber (s : List Char) : Bool :=
  match (labels s).getLast? with
  | some last =>
    (!last.isEmpty && last.all Char.isDigit) || (hostNumber? last).isSome
  | none => false

/-- Whether a name is a numeric address: at most four numbers, all but the last below 256, the last
filling what is left of 32 bits. -/
def isNumericAddress (s : List Char) : Bool :=
  let parts := labels s
  parts.length ≤ 4 &&
    match parts.mapM hostNumber? with
    | some ns =>
      match ns.getLast? with
      | some last => ns.dropLast.all (· < 256) && last < 1 <<< (8 * (5 - ns.length))
      | none => false
    | none => false

/-- Whether a label may stand in a name. One that claims to be spelled in ASCII has to spell a
character beyond ASCII, and only characters that names may hold. -/
def isLabel (label : List Char) : Bool :=
  match Text.dropPrefix? "xn--".toList label with
  | some spelled =>
    match Punycode.decode? spelled with
    | some cs => cs.any (128 ≤ ·.toNat) && !cs.any fun c => isForbiddenInDomain c || isTransparent c
    | none => false
  | none => true

/-- Whether a text can be a domain name or a numeric address. -/
def isDomain (s : List Char) : Bool :=
  let folded := (s.filter (!isTransparent ·)).map foldDomainChar
  !folded.isEmpty && !folded.any isForbiddenInDomain && (Text.splitOn '.' folded).all isLabel &&
    (!endsInNumber folded || isNumericAddress folded)

/-- Whether a text can be the host of a URL with a host. Octets of a name may be written
as `%hh`. -/
def isHost (s : List Char) : Bool :=
  match s with
  | '[' :: rest =>
    match Text.dropSuffix? [']'] rest with
    | some inner => (Net.Ip.groups6? inner).isSome
    | none => false
  | _ =>
    let decoded := percentDecode (String.ofList s).toUTF8.data.toList
    match Bytes.toText? (Bytes.ofOctets decoded) with
    | some text => isDomain text.toList
    | none => false

/-- Whether a text can be the host of a URL of another scheme. -/
def isOpaqueHost (s : List Char) : Bool :=
  match s with
  | '[' :: rest =>
    match Text.dropSuffix? [']'] rest with
    | some inner => (Net.Ip.groups6? inner).isSome
    | none => false
  | _ => !s.any isForbiddenInHost

end Wirelog.Url
