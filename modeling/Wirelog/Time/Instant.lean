import Wirelog.Text.Ascii
import Wirelog.Text.Blank
import Wirelog.Text.Split
import Wirelog.Time.Calendar
/-!
Points in time to the nanosecond, always in UTC, and their RFC 3339 text. Reading is forgiving:
numbers may lack leading zeros, blanks may stand before numbers and separators, a blank or a `t` may
replace the `T`, years may have a sign and any number of digits, and any offset below a day is
converted. Printing is strict: `Z`, and 0, 3, 6 or 9 fractional digits, the fewest that lose
nothing.
-/
namespace Wirelog.Time

/-- A point in time. During a leap second the nanoseconds go on beyond a second. -/
structure Instant where
  /-- The day in UTC. -/
  date : Date
  /-- Whole seconds since midnight. -/
  second : Nat
  /-- Nanoseconds since that second. -/
  nano : Nat
  /-- A day has 86400 seconds. -/
  second_lt : second < 86400
  /-- Only the last second of a minute may be a long one. -/
  nano_lt : nano < 1000000000 ∨ second % 60 = 59 ∧ nano < 2000000000
deriving DecidableEq

namespace Instant

/-- The start of the usual epoch. -/
def epoch : Instant :=
  ⟨.epoch, 0, 0, by decide, by decide⟩

instance : Inhabited Instant := ⟨epoch⟩

/-- The years that can be told apart. -/
def hasYear (year : Int) : Bool :=
  -262143 ≤ year && year ≤ 262142

/-- A point in time from its parts, if there is one. -/
def of? (date : Date) (second nano : Nat) : Option Instant :=
  if hs : second < 86400 then
    if hn : nano < 1000000000 ∨ second % 60 = 59 ∧ nano < 2000000000 then
      some ⟨date, second, nano, hs, hn⟩
    else none
  else none

/-- The point that is a number of milliseconds after the epoch. -/
def ofMillis (millis : Nat) : Instant :=
  let seconds := millis / 1000
  ((Date.ofDays (seconds / 86400)).bind fun date =>
    of? date (seconds % 86400) (millis % 1000 * 1000000)).getD epoch

/-- Moves a local time by its offset from UTC, both in seconds. The offset is less than a day, so
the date moves by one day at most. -/
def ofLocal (date : Date) (second nano : Nat) (offset : Int) : Option Instant := do
  let moved := (second : Int) - offset
  let utc ←
    if moved < 0 then date.previous else if moved < 86400 then some date else date.next
  if hasYear utc.year then of? utc (moved % 86400).toNat nano else none

/-! ### Reading -/

/-- Reads an unsigned number of 1 to `width` digits. -/
def takeNumber (width : Nat) (s : List Char) : Option (Nat × List Char) :=
  let ds := (s.take width).takeWhile Char.isDigit
  if ds.isEmpty then none
  else (Text.numeral 10 Text.digitValue ds).map fun n => (n, s.drop ds.length)

/-- Reads a number with blanks before it. -/
def takePart (width : Nat) (s : List Char) : Option (Nat × List Char) :=
  takeNumber width (Text.dropLead Text.isBlank s)

/-- Reads a year with blanks before it: up to four digits, or any number of them after a sign. -/
def takeYear (s : List Char) : Option (Int × List Char) :=
  match Text.dropLead Text.isBlank s with
  | '-' :: rest => (takeNumber rest.length rest).map fun (n, rest) => (-(n : Int), rest)
  | '+' :: rest => (takeNumber rest.length rest).map fun (n, rest) => ((n : Int), rest)
  | s => (takeNumber 4 s).map fun (n, rest) => ((n : Int), rest)

/-- Reads a separator with blanks before it. -/
def takeMark (mark : Char) (s : List Char) : Option (List Char) :=
  match Text.dropLead Text.isBlank s with
  | c :: rest => if c == mark then some rest else none
  | [] => none

/-- Reads a fraction of a second in nanoseconds, if there is one; digits after the ninth are passed
over. -/
def takeFraction : List Char → Option (Nat × List Char)
  | '.' :: rest =>
    (takeNumber 9 rest).map fun (n, after) =>
      (n * Nat.pow 10 (9 - (rest.length - after.length)), after.dropWhile Char.isDigit)
  | s => some (0, s)

/-- Reads two digits. -/
def takeTwo : List Char → Option (Nat × List Char)
  | a :: b :: rest => (Text.numeral 10 Text.digitValue [a, b]).map fun n => (n, rest)
  | _ => none

/-- Reads an offset from UTC in seconds: `Z`, `UTC`, or hours and minutes after a sign. -/
def takeOffset (s : List Char) : Option (Int × List Char) :=
  match s with
  | 'Z' :: rest | 'z' :: rest => some (0, rest)
  | sign :: rest =>
    match Text.dropPrefix? "utc".toList (s.map Char.toLower) with
    | some _ => some (0, s.drop 3)
    | none => do
      let negative ←
        if sign == '+' then some false
        else if sign == '-' || sign == '\u2212' then some true
        else none
      let (hours, rest) ← takeTwo rest
      let (minutes, rest) ← takeTwo (rest.dropWhile fun c => c == ':' || Text.isBlank c)
      if 60 ≤ minutes then none
      else
        let seconds : Int := hours * 3600 + minutes * 60
        if 86400 ≤ seconds then none else some (if negative then -seconds else seconds, rest)
  | [] => none

/-- Reads a point in time. A second 60 is a leap second. -/
def parse? (text : String) : Option Instant := do
  let (year, s) ← takeYear text.toList
  let s ← takeMark '-' s
  let (month, s) ← takePart 2 s
  let s ← takeMark '-' s
  let (day, s) ← takePart 2 s
  let s ← match s with
    | 'T' :: rest | 't' :: rest | ' ' :: rest => some rest
    | _ => none
  let (hour, s) ← takePart 2 s
  let s ← takeMark ':' s
  let (minute, s) ← takePart 2 s
  let s ← takeMark ':' s
  let (second, s) ← takePart 2 s
  let (nano, s) ← takeFraction s
  let (offset, s) ← takeOffset (Text.dropLead Text.isBlank s)
  if !(Text.dropLead Text.isBlank s).isEmpty then none
  else if !hasYear year || 24 ≤ hour || 60 ≤ minute || 61 ≤ second then none
  else
    let date ← Date.of? year month day
    let midnight := hour * 3600 + minute * 60
    if second == 60 then ofLocal date (midnight + 59) (nano + 1000000000) offset
    else ofLocal date (midnight + second) nano offset

/-! ### Printing -/

/-- The year: four digits for years 0 to 9999, else a sign and at least four digits. -/
def yearText (year : Int) : String :=
  if 0 ≤ year ∧ year ≤ 9999 then Text.padded 4 year.toNat
  else (if year < 0 then "-" else "+") ++ Text.padded 4 year.natAbs

/-- The fraction of a second with its point; empty for none. -/
def fractionText (nano : Nat) : String :=
  if nano = 0 then ""
  else if nano % 1000000 = 0 then "." ++ Text.padded 3 (nano / 1000000)
  else if nano % 1000 = 0 then "." ++ Text.padded 6 (nano / 1000)
  else "." ++ Text.padded 9 nano

/-- The text of a point in time. -/
def text (t : Instant) : String :=
  let leap := t.nano / 1000000000
  yearText t.date.year ++ "-" ++ Text.padded 2 t.date.month ++ "-" ++ Text.padded 2 t.date.day ++
    "T" ++ Text.padded 2 (t.second / 3600) ++ ":" ++ Text.padded 2 (t.second / 60 % 60) ++ ":" ++
    Text.padded 2 (t.second % 60 + leap) ++ fractionText (t.nano % 1000000000) ++ "Z"

end Instant
end Wirelog.Time
