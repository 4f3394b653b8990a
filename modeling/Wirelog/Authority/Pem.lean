import Wirelog.Bytes
import Wirelog.Text.Base64
import Wirelog.Text.Split
/-!
Sections of PEM files. A section is opened by a line with its label, holds Base64 text in lines, and
is closed by a line with the same label; everything outside of sections is ignored.
-/
namespace Wirelog.Authority.Pem

/-- A section. -/
structure Section where
  /-- The label. -/
  label : String
  /-- The octets. -/
  content : Bytes

/-- Why a file cannot be read. -/
inductive Damage where
  /-- A line opens a section, but not as it should. -/
  | start
  /-- A section is not closed. -/
  | unclosed
  /-- A section does not hold Base64 text. -/
  | content
deriving DecidableEq

/-- The label of an opening line; `none` for other lines. -/
def opening? (line : List Char) : Except Damage (Option String) :=
  match Text.dropPrefix? "-----BEGIN ".toList line with
  | none => .ok none
  | some rest =>
    let rest := (rest.reverse.dropWhile fun c => c == ' ' || c == '\r').reverse
    match Text.dropSuffix? "-----".toList rest with
    | some label => .ok (some (String.ofList label))
    | none => .error .start

/-- The octets of Base64 digits, with or without the padding at the end. -/
def decode? (digits : List Char) : Option Bytes :=
  let bare := (digits.reverse.dropWhile (· == '=')).reverse
  let padding := (4 - bare.length % 4) % 4
  Text.Base64.decode (String.ofList (bare ++ List.replicate padding '='))

/-- A section while it is read. -/
structure Open where
  /-- The label. -/
  label : String
  /-- Its digits so far. -/
  digits : List Char := []

/-- Reads sections up to the end of the lines or the first damage. -/
def sectionsFrom : Option Open → List (List Char) → List (Except Damage Section)
  | none, [] => []
  | some _, [] => [.error .unclosed]
  | state, line :: rest =>
    match opening? line with
    | .error e => [.error e]
    | .ok (some label) => sectionsFrom (some { label }) rest
    | .ok none =>
      match state with
      | none => sectionsFrom none rest
      | some o =>
        if (Text.dropPrefix? ("-----END " ++ o.label ++ "-----").toList line).isSome then
          match decode? o.digits with
          | some content => .ok ⟨o.label, content⟩ :: sectionsFrom none rest
          | none => [.error .content]
        else
          let digits := line.filter fun c => !(c == ' ' || c == '\t' || c == '\r')
          sectionsFrom (some { o with digits := o.digits ++ digits }) rest

/-- The lines of a text, which end with either of two characters. -/
def lines (text : String) : List (List Char) :=
  (Text.splitOn '\n' text.toList).flatMap (Text.splitOn '\r')

/-- The sections of a file in order; damage ends them. -/
def sections (text : String) : List (Except Damage Section) :=
  sectionsFrom none (lines text)

end Wirelog.Authority.Pem
