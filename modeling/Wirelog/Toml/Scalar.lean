import Wirelog.Text.Ascii
import Wirelog.Text.Split
import Wirelog.Toml.Basic
/-!
Texts, numbers and moments of TOML. Each reader takes the longest form at the start of the text and
gives the rest.
-/
namespace Wirelog.Toml

/-- Blanks within a line. -/
def isBlank (c : Char) : Bool :=
  c == ' ' || c == '\t'

/-- Skips blanks. -/
def skip (s : List Char) : List Char :=
  s.dropWhile isBlank

/-- Characters of a comment, and of a text that is not otherwise limited: the tab and everything but
the other control characters of ASCII. -/
def isPlain (c : Char) : Bool :=
  c == '\t' || (0x20 ≤ c.toNat && c.toNat != 0x7F)

/-! ### Texts -/

/-- The character of an escape of two characters. -/
def escapeChar? : Char → Option Char
  | 'b' => some '\x08'
  | 't' => some '\t'
  | 'n' => some '\n'
  | 'f' => some '\x0c'
  | 'r' => some '\r'
  | '"' => some '"'
  | '\\' => some '\\'
  | _ => none

/-- The character with a number given in hexadecimal digits. -/
def charOf? (digits : List Char) : Option Char := do
  let n ← Text.numeral 16 Text.hexValue digits
  if h : n.isValidChar then some (Char.ofNatAux n h) else none

/-- Whether only blanks are left on a line that goes on. -/
def endsLine (s : List Char) : Bool :=
  match skip s with
  | '\n' :: _ | '\r' :: '\n' :: _ => true
  | _ => false

/-- Reads a text in quotes, after its opening quote. -/
def quoted (back : List Char) : List Char → Option (String × List Char)
  | '"' :: rest => some (String.ofList back.reverse, rest)
  | '\\' :: 'u' :: a :: b :: c :: d :: rest => do
    quoted ((← charOf? [a, b, c, d]) :: back) rest
  | '\\' :: 'U' :: a :: b :: c :: d :: e :: f :: g :: h :: rest => do
    quoted ((← charOf? [a, b, c, d, e, f, g, h]) :: back) rest
  | '\\' :: e :: rest => do
    quoted ((← escapeChar? e) :: back) rest
  | c :: rest => if isPlain c && c != '\\' then quoted (c :: back) rest else none
  | [] => none

/-- Reads a text in three quotes, after the opening ones and the line end that may follow them. A
backslash at the end of a line takes the blanks and line ends after it out of the text; `folding`
says that this is going on. Up to two quotes may stand before the closing ones. -/
def quotedLines (folding : Bool) (back : List Char) : List Char → Option (String × List Char)
  | '"' :: '"' :: '"' :: '"' :: '"' :: rest =>
    some (String.ofList ('"' :: '"' :: back).reverse, rest)
  | '"' :: '"' :: '"' :: '"' :: rest => some (String.ofList ('"' :: back).reverse, rest)
  | '"' :: '"' :: '"' :: rest => some (String.ofList back.reverse, rest)
  | '\r' :: '\n' :: rest => quotedLines folding (if folding then back else '\n' :: back) rest
  | '\n' :: rest => quotedLines folding (if folding then back else '\n' :: back) rest
  | '\\' :: 'u' :: a :: b :: c :: d :: rest => do
    quotedLines false ((← charOf? [a, b, c, d]) :: back) rest
  | '\\' :: 'U' :: a :: b :: c :: d :: e :: f :: g :: h :: rest => do
    quotedLines false ((← charOf? [a, b, c, d, e, f, g, h]) :: back) rest
  | '\\' :: e :: rest =>
    if endsLine (e :: rest) then quotedLines true back (e :: rest)
    else do quotedLines false ((← escapeChar? e) :: back) rest
  | c :: rest =>
    if folding && isBlank c then quotedLines true back rest
    else if isPlain c && c != '\\' then quotedLines false (c :: back) rest
    else none
  | [] => none

/-- Reads a text in apostrophes, after the opening one. It has no escapes. -/
def literal (s : List Char) : Option (String × List Char) :=
  let text := s.takeWhile fun c => isPlain c && c != '\''
  match s.drop text.length with
  | '\'' :: rest => some (String.ofList text, rest)
  | _ => none

/-- Reads a text in three apostrophes, after the opening ones and the line end that may follow
them. -/
def literalLines (back : List Char) : List Char → Option (String × List Char)
  | '\'' :: '\'' :: '\'' :: '\'' :: '\'' :: rest =>
    some (String.ofList ('\'' :: '\'' :: back).reverse, rest)
  | '\'' :: '\'' :: '\'' :: '\'' :: rest => some (String.ofList ('\'' :: back).reverse, rest)
  | '\'' :: '\'' :: '\'' :: rest => some (String.ofList back.reverse, rest)
  | '\r' :: '\n' :: rest => literalLines ('\n' :: back) rest
  | c :: rest => if isPlain c || c == '\n' then literalLines (c :: back) rest else none
  | [] => none

/-- A text without the line end at its start. -/
def afterNewline : List Char → List Char
  | '\n' :: rest => rest
  | '\r' :: '\n' :: rest => rest
  | s => s

/-- Reads a text of any kind. -/
def text? : List Char → Option (String × List Char)
  | '"' :: '"' :: '"' :: rest => quotedLines false [] (afterNewline rest)
  | '"' :: rest => quoted [] rest
  | '\'' :: '\'' :: '\'' :: rest => literalLines [] (afterNewline rest)
  | '\'' :: rest => literal rest
  | _ => none

/-! ### Numbers -/

/-- Reads a row of digits. Single underscores may stand between two of them. -/
def digitRow (isDigit : Char → Bool) : List Char → Option (List Char × List Char)
  | [] => none
  | c :: rest =>
    if isDigit c then
      match rest with
      | '_' :: after => (digitRow isDigit after).map fun (ds, r) => (c :: ds, r)
      | d :: after =>
        if isDigit d then (digitRow isDigit (d :: after)).map fun (ds, r) => (c :: ds, r)
        else some ([c], d :: after)
      | [] => some ([c], [])
    else none

/-- Reads the whole part of a number. A leading zero stands alone. -/
def wholePart : List Char → Option (List Char × List Char)
  | '0' :: rest => some (['0'], rest)
  | s => digitRow Char.isDigit s

/-- Reads an exponent after its letter: its value and the rest. -/
def exponent (s : List Char) : Option (Int × List Char) := do
  let (negative, s) := match s with
    | '+' :: rest => (false, rest)
    | '-' :: rest => (true, rest)
    | s => (false, s)
  let (digits, rest) ← digitRow Char.isDigit s
  let n ← Text.numeral 10 Text.digitValue digits
  some (if negative then -n else n, rest)

/-- The least number that is too great for a double: half a step above the greatest one. -/
def tooGreat : Nat :=
  1 <<< 1024 - 1 <<< 970

/-- Whether `n · 10 ^ e` with so many digits in `n` is too great for a double. The number of digits
decides unless it is close. -/
def overflows (digits n : Nat) (e : Int) : Bool :=
  if n == 0 || digits + e ≤ 308 then false
  else if 310 ≤ digits + e then true
  else if e < 0 then tooGreat * Nat.pow 10 (-e).toNat ≤ n
  else tooGreat ≤ n * Nat.pow 10 e.toNat

/-- A floating-point number of digits before and after the point and an exponent. A positive one
that is too great is refused, a negative one is not. -/
def float? (negative : Bool) (whole frac : List Char) (e : Int) : Option Toml := do
  let n ← Text.numeral 10 Text.digitValue (whole ++ frac)
  let digits := ((whole ++ frac).dropWhile (· == '0')).length
  if !negative && overflows digits n (e - frac.length) then none else some .float

/-- A whole number, if it has 64 bits. -/
def integer? (i : Int) : Option Toml :=
  if Int64.minValue.toInt ≤ i ∧ i ≤ Int64.maxValue.toInt then some (.int i) else none

/-- Reads the rest of a number after its whole part. -/
def afterWhole (negative : Bool) (whole : List Char) : List Char → Option (Toml × List Char)
  | '.' :: rest => do
    let (frac, rest) ← digitRow Char.isDigit rest
    match rest with
    | c :: after =>
      if c == 'e' || c == 'E' then do
        let (e, rest) ← exponent after
        return (← float? negative whole frac e, rest)
      else return (← float? negative whole frac 0, rest)
    | [] => return (← float? negative whole frac 0, [])
  | s => do
    let plain : Option (Toml × List Char) := do
      let n ← Text.numeral 10 Text.digitValue whole
      return (← integer? (if negative then -n else n), s)
    match s with
    | c :: rest =>
      if c == 'e' || c == 'E' then do
        let (e, rest) ← exponent rest
        return (← float? negative whole [] e, rest)
      else plain
    | [] => plain

/-- Reads a number in a base other than ten, after the letter of the base. -/
def based (base : Nat) (s : List Char) : Option (Toml × List Char) := do
  let isDigit (c : Char) : Bool := match Text.hexValue c with
    | some d => d < base
    | none => false
  let (digits, rest) ← digitRow isDigit s
  let n ← Text.numeral base Text.hexValue digits
  return (← integer? n, rest)

/-- Reads a number after its sign: a number in digits, infinity, or no number at all. -/
def magnitude (negative : Bool) : List Char → Option (Toml × List Char)
  | 'i' :: 'n' :: 'f' :: rest => some (.float, rest)
  | 'n' :: 'a' :: 'n' :: rest => some (.float, rest)
  | s => do
    let (whole, rest) ← wholePart s
    afterWhole negative whole rest

/-- Reads a number. Only numbers without a sign have a base. -/
def number : List Char → Option (Toml × List Char)
  | '0' :: 'x' :: rest => based 16 rest
  | '0' :: 'o' :: rest => based 8 rest
  | '0' :: 'b' :: rest => based 2 rest
  | '+' :: rest => magnitude false rest
  | '-' :: rest => magnitude true rest
  | s => magnitude false s

/-! ### Moments -/

/-- Reads a number of exactly so many digits within limits. -/
def fixed (width low high : Nat) (s : List Char) : Option (Nat × List Char) := do
  let digits := s.take width
  if digits.length < width then none
  else
    let n ← Text.numeral 10 Text.digitValue digits
    if low ≤ n ∧ n ≤ high then some (n, s.drop width) else none

/-- Whether a year has a day more. -/
def isLeap (year : Nat) : Bool :=
  year % 4 == 0 && (year % 100 != 0 || year % 400 == 0)

/-- The number of days of a month. -/
def daysIn (year month : Nat) : Nat :=
  if month == 2 then (if isLeap year then 29 else 28)
  else if [4, 6, 9, 11].contains month then 30
  else 31

/-- Reads a date: its text and the rest. -/
def date? (s : List Char) : Option (String × List Char) := do
  let (year, s) ← fixed 4 0 9999 s
  let '-' :: s := s | none
  let (month, s) ← fixed 2 1 12 s
  let '-' :: s := s | none
  let (day, s) ← fixed 2 1 31 s
  if daysIn year month < day then none
  else return (Text.padded 4 year ++ "-" ++ Text.padded 2 month ++ "-" ++ Text.padded 2 day, s)

/-- The text of a fraction of a second: at most nine digits count, and zeros at the end do not. -/
def fractionText (digits : List Char) : String :=
  let kept := ((digits.take 9).reverse.dropWhile (· == '0')).reverse
  if kept.isEmpty then "" else String.ofList ('.' :: kept)

/-- Reads a time of day: its text and the rest. A minute may have a leap second. -/
def time? (s : List Char) : Option (String × List Char) := do
  let (hour, s) ← fixed 2 0 23 s
  let ':' :: s := s | none
  let (minute, s) ← fixed 2 0 59 s
  let ':' :: s := s | none
  let (second, s) ← fixed 2 0 60 s
  let text := Text.padded 2 hour ++ ":" ++ Text.padded 2 minute ++ ":" ++ Text.padded 2 second
  match s with
  | '.' :: after =>
    let digits := after.takeWhile Char.isDigit
    if digits.isEmpty then none
    else return (text ++ fractionText digits, after.drop digits.length)
  | s => return (text, s)

/-- Reads the distance from universal time, if there is one. -/
def offset? : List Char → Option (String × List Char)
  | c :: s =>
    if c == 'Z' || c == 'z' then some ("Z", s)
    else if c == '+' || c == '-' then do
      let (hour, s) ← fixed 2 0 23 s
      let ':' :: s := s | none
      let (minute, s) ← fixed 2 0 59 s
      let sign := if c == '-' && (hour, minute) != (0, 0) then "-" else "+"
      return (sign ++ Text.padded 2 hour ++ ":" ++ Text.padded 2 minute, s)
    else some ("", c :: s)
  | [] => some ("", [])

/-- Reads a moment. A date may be followed by a time, and this by the distance from universal
time. -/
def moment? (s : List Char) : Option (Toml × List Char) :=
  match date? s with
  | some (date, rest) =>
    match rest with
    | c :: after =>
      if c == 'T' || c == 't' || c == ' ' then
        match time? after with
        | some (time, after) => (offset? after).map fun (offset, after) =>
          (.moment (date ++ "T" ++ time ++ offset), after)
        | none => some (.moment date, rest)
      else some (.moment date, rest)
    | [] => some (.moment date, [])
  | none => (time? s).map fun (time, rest) => (.moment time, rest)

end Wirelog.Toml
