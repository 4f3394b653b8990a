/-!
ASCII letter case and digits. Names of the protocols compare without regard to the case of ASCII
letters only, so no other character is ever folded here.
-/
namespace Wirelog.Text

/-- The text with `A`–`Z` replaced by `a`–`z`; every other character stays. -/
def asciiLower (s : String) : String :=
  String.ofList (s.toList.map Char.toLower)

/-- Equality up to the case of ASCII letters. -/
def sameAscii (a b : String) : Bool :=
  asciiLower a == asciiLower b

theorem toList_asciiLower (s : String) : (asciiLower s).toList = s.toList.map Char.toLower := by
  simp [asciiLower]

/-- The value of a hexadecimal digit of either case. -/
def hexValue (c : Char) : Option Nat :=
  if '0' ≤ c ∧ c ≤ '9' then some (c.toNat - '0'.toNat)
  else if 'a' ≤ c ∧ c ≤ 'f' then some (c.toNat - 'a'.toNat + 10)
  else if 'A' ≤ c ∧ c ≤ 'F' then some (c.toNat - 'A'.toNat + 10)
  else none

/-- The value of a decimal digit. -/
def digitValue (c : Char) : Option Nat :=
  if '0' ≤ c ∧ c ≤ '9' then some (c.toNat - '0'.toNat) else none

/-- The number that a row of digits denotes in a base; `none` when one is not a digit of it. -/
def numeral (base : Nat) (value : Char → Option Nat) : List Char → Option Nat :=
  go 0
where
  /-- Continues a number whose leading digits are already worth `acc`. -/
  go (acc : Nat) : List Char → Option Nat
    | [] => some acc
    | c :: rest => do
      let d ← value c
      if d < base then go (acc * base + d) rest else none

/-- A decimal number of at least one digit, with an optional leading `+`, as port numbers and
status words are written. -/
def decimal? (s : List Char) : Option Nat :=
  let digits := match s with
    | '+' :: rest => rest
    | _ => s
  if digits.isEmpty then none else numeral 10 digitValue digits

/-- A word of `width` bits: a decimal number that fits. -/
def word? (width : Nat) (s : List Char) : Option Nat :=
  match decimal? s with
  | some n => if n < 1 <<< width then some n else none
  | none => none

/-- The decimal digits of a number. -/
def natText (n : Nat) : String :=
  String.ofList (Nat.toDigits 10 n)

/-- The decimal digits of an integer, with a leading `-` below zero. -/
def intText (i : Int) : String :=
  if i < 0 then "-" ++ natText i.natAbs else natText i.natAbs

/-- The digits of a number, led by zeros up to a width. -/
def padded (width n : Nat) : String :=
  let digits := Nat.toDigits 10 n
  String.ofList (List.replicate (width - digits.length) '0' ++ digits)

end Wirelog.Text
