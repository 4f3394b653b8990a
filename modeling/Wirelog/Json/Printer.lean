import Wirelog.Json.Basic
import Wirelog.Text.Ascii
/-!
Printing JSON, either on one line or with each element on a line of its own, indented by two blanks
for each level. Only what the grammar forbids inside quotes is escaped. Reading back what either
form prints gives the same value.
-/
namespace Wirelog.Json

/-- A hexadecimal digit in lower case. -/
def hexDigit (n : Nat) : Char :=
  if n < 10 then Char.ofNat (48 + n) else Char.ofNat (87 + n)

/-- A character as it stands between quotes. -/
def escape (c : Char) : List Char :=
  match c with
  | '"' => ['\\', '"']
  | '\\' => ['\\', '\\']
  | '\x08' => ['\\', 'b']
  | '\x0c' => ['\\', 'f']
  | '\n' => ['\\', 'n']
  | '\r' => ['\\', 'r']
  | '\t' => ['\\', 't']
  | c =>
    if c.toNat < 32 then ['\\', 'u', '0', '0', hexDigit (c.toNat / 16), hexDigit (c.toNat % 16)]
    else [c]

/-- A text between quotes. What no string holds is printed as an escaped half of a pair. -/
def quote : Spelling → List Char
  | some s => '"' :: (s.toList.flatMap escape ++ ['"'])
  | none => "\"\\ud800\"".toList

/-- How the parts of an array or an object are set apart. -/
inductive Layout where
  /-- Everything on one line without blanks. -/
  | compact
  /-- Each part on its own line. -/
  | pretty
deriving DecidableEq

namespace Layout

/-- What stands before a part at a depth. -/
def gap : Layout → Nat → List Char
  | compact, _ => []
  | pretty, depth => '\n' :: List.replicate (2 * depth) ' '

/-- What stands after the name of a member. -/
def colon : Layout → List Char
  | compact => [':']
  | pretty => [':', ' ']

end Layout

mutual

/-- The text of a value inside `depth` others. -/
def render (layout : Layout) (depth : Nat) : Json → List Char
  | .null => "null".toList
  | .bool true => "true".toList
  | .bool false => "false".toList
  | .int i => (Text.intText i).toList
  | .real literal => literal.toList
  | .str s => quote s
  | .arr [] => ['[', ']']
  | .arr (x :: xs) =>
    '[' :: (layout.gap (depth + 1) ++ (render layout (depth + 1) x ++ renderItems layout depth xs))
  | .obj [] => ['\x7b', '\x7d']
  | .obj ((name, x) :: ms) =>
    '\x7b' :: (layout.gap (depth + 1) ++ (quote name ++ (layout.colon ++
      (render layout (depth + 1) x ++ renderMembers layout depth ms))))

/-- The text of the elements after the first, and the closing bracket. -/
def renderItems (layout : Layout) (depth : Nat) : List Json → List Char
  | [] => layout.gap depth ++ [']']
  | x :: xs =>
    ',' :: (layout.gap (depth + 1) ++ (render layout (depth + 1) x ++ renderItems layout depth xs))

/-- The text of the members after the first, and the closing brace. -/
def renderMembers (layout : Layout) (depth : Nat) : List (Spelling × Json) → List Char
  | [] => layout.gap depth ++ ['\x7d']
  | (name, x) :: ms =>
    ',' :: (layout.gap (depth + 1) ++ (quote name ++ (layout.colon ++
      (render layout (depth + 1) x ++ renderMembers layout depth ms))))

end

/-- The document on one line. -/
def compact (j : Json) : String :=
  String.ofList (render .compact 0 j)

/-- The document with indentation, without a final line end. -/
def pretty (j : Json) : String :=
  String.ofList (render .pretty 0 j)

end Wirelog.Json
