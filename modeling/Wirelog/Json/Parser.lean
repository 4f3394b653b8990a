import Wirelog.Json.Basic
import Wirelog.Text.Ascii
/-!
Reading JSON. The grammar is strict: no comment, no trailing comma, no leading zero, no raw control
character, and nothing but blanks after the document. Nesting has no limit.
-/
namespace Wirelog.Json

/-- The blanks between tokens. -/
def isBlank (c : Char) : Bool :=
  c == ' ' || c == '\t' || c == '\n' || c == '\r'

/-- Skips blanks. -/
def skip (s : List Char) : List Char :=
  s.dropWhile isBlank

/-- What has been read of a quoted text. -/
structure Quoted where
  /-- The characters so far, last one first. -/
  back : List Char := []
  /-- The first half of a surrogate pair that still lacks its second. -/
  half : Option Nat := none
  /-- No half has been left alone so far. -/
  sound : Bool := true

namespace Quoted

/-- Adds a character; a half that waits is then alone. -/
def push (q : Quoted) (c : Char) : Quoted :=
  { back := c :: q.back, sound := q.sound && q.half.isNone }

/-- Adds a 16-bit unit given by an escape. -/
def pushUnit (q : Quoted) (u : Nat) : Quoted :=
  if 0xDC00 ≤ u ∧ u ≤ 0xDFFF then
    match q.half with
    | some h =>
      { back := Char.ofNat (0x10000 + (h - 0xD800) * 1024 + (u - 0xDC00)) :: q.back
        sound := q.sound }
    | none => { q with sound := false }
  else if 0xD800 ≤ u ∧ u ≤ 0xDBFF then
    { q with half := some u, sound := q.sound && q.half.isNone }
  else q.push (Char.ofNat u)

/-- What the whole text spells. -/
def spelling (q : Quoted) : Spelling :=
  if q.sound && q.half.isNone then some (String.ofList q.back.reverse) else none

end Quoted

/-- The character of a two-character escape. -/
def escapeChar? : Char → Option Char
  | '"' => some '"'
  | '\\' => some '\\'
  | '/' => some '/'
  | 'b' => some '\x08'
  | 'f' => some '\x0c'
  | 'n' => some '\n'
  | 'r' => some '\r'
  | 't' => some '\t'
  | _ => none

/-- The 16-bit unit that four hexadecimal digits spell. -/
def unit? (a b c d : Char) : Option Nat :=
  Text.numeral 16 Text.hexValue [a, b, c, d]

/-- Reads a quoted text after its opening quote. -/
def quoted (q : Quoted) : List Char → Option (Spelling × List Char)
  | [] => none
  | '"' :: rest => some (q.spelling, rest)
  | '\\' :: 'u' :: a :: b :: c :: d :: rest =>
    match unit? a b c d with
    | some u => quoted (q.pushUnit u) rest
    | none => none
  | '\\' :: e :: rest =>
    match escapeChar? e with
    | some c => quoted (q.push c) rest
    | none => none
  | c :: rest => if c.toNat < 32 || c == '\\' then none else quoted (q.push c) rest

/-- Splits off leading digits. -/
def digits (s : List Char) : List Char × List Char :=
  (s.takeWhile Char.isDigit, s.dropWhile Char.isDigit)

/-- Reads the fraction of a number, if there is one: its characters and the rest. -/
def fraction : List Char → Option (List Char × List Char)
  | '.' :: rest =>
    let (ds, rest) := digits rest
    if ds.isEmpty then none else some ('.' :: ds, rest)
  | s => some ([], s)

/-- Reads the exponent of a number, if there is one: its characters and the rest. -/
def exponent : List Char → Option (List Char × List Char)
  | e :: rest =>
    if e == 'e' || e == 'E' then
      let (sign, rest) := match rest with
        | '+' :: r => (['+'], r)
        | '-' :: r => (['-'], r)
        | r => ([], r)
      let (ds, rest) := digits rest
      if ds.isEmpty then none else some (e :: (sign ++ ds), rest)
    else some ([], e :: rest)
  | [] => some ([], [])

/-- Reads the part of a number after its sign. Zero stands alone before a fraction. -/
def magnitude (negative : Bool) (s : List Char) : Option (Json × List Char) := do
  let (whole, rest) := digits s
  if whole.isEmpty || (whole.head? == some '0' && 1 < whole.length) then none
  else
    let (frac, rest) ← fraction rest
    let (exp, rest) ← exponent rest
    let value ← Text.numeral 10 Text.digitValue whole
    if frac.isEmpty && exp.isEmpty && !(negative && value == 0) then
      some (.int (if negative then -(value : Int) else value), rest)
    else
      let sign := if negative then ['-'] else []
      some (.real (String.ofList (sign ++ whole ++ frac ++ exp)), rest)

mutual

/-- Reads one value at the start of a text. `fuel` bounds the number of values that may nest or
follow one another; the length of the text is enough. -/
def value (fuel : Nat) (s : List Char) : Option (Json × List Char) :=
  match fuel with
  | 0 => none
  | fuel + 1 =>
    match s with
    | 'n' :: 'u' :: 'l' :: 'l' :: rest => some (.null, rest)
    | 't' :: 'r' :: 'u' :: 'e' :: rest => some (.bool true, rest)
    | 'f' :: 'a' :: 'l' :: 's' :: 'e' :: rest => some (.bool false, rest)
    | '"' :: rest =>
      match quoted {} rest with
      | some (q, rest) => some (.str q, rest)
      | none => none
    | '-' :: rest => magnitude true rest
    | '[' :: rest =>
      match skip rest with
      | ']' :: rest => some (.arr [], rest)
      | rest =>
        match items fuel rest with
        | some (xs, rest) => some (.arr xs, rest)
        | none => none
    | '\x7b' :: rest =>
      match skip rest with
      | '\x7d' :: rest => some (.obj [], rest)
      | rest =>
        match members fuel rest with
        | some (ms, rest) => some (.obj ms, rest)
        | none => none
    | s => magnitude false s

/-- Reads the elements of an array up to its closing bracket. -/
def items (fuel : Nat) (s : List Char) : Option (List Json × List Char) :=
  match fuel with
  | 0 => none
  | fuel + 1 =>
    match value fuel s with
    | none => none
    | some (x, rest) =>
      match skip rest with
      | ']' :: rest => some ([x], rest)
      | ',' :: rest =>
        match items fuel (skip rest) with
        | some (xs, rest) => some (x :: xs, rest)
        | none => none
      | _ => none

/-- Reads the members of an object up to its closing brace. -/
def members (fuel : Nat) (s : List Char) : Option (List (Spelling × Json) × List Char) :=
  match fuel with
  | 0 => none
  | fuel + 1 =>
    match s with
    | '"' :: rest =>
      match quoted {} rest with
      | none => none
      | some (name, rest) =>
        match skip rest with
        | ':' :: rest =>
          match value fuel (skip rest) with
          | none => none
          | some (x, rest) =>
            match skip rest with
            | '\x7d' :: rest => some ([(name, x)], rest)
            | ',' :: rest =>
              match members fuel (skip rest) with
              | some (ms, rest) => some ((name, x) :: ms, rest)
              | none => none
            | _ => none
        | _ => none
    | _ => none

end

/-- Reads a document: one value with blanks around it. -/
def parse? (s : String) : Option Json :=
  let cs := s.toList
  match value (cs.length + 1) (skip cs) with
  | some (j, rest) => if (skip rest).isEmpty then some j else none
  | none => none

end Wirelog.Json
