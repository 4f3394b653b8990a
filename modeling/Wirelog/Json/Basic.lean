/-!
JSON documents as trees. Members of an object keep their order and may repeat a name, because what
a repeated name means is for the reader of a record to decide. A text may spell half of a surrogate
pair with escapes; no string holds that, so such a spelling is kept apart from the strings.
-/
namespace Wirelog

/-- What a quoted text spells: a string, or nothing when an escape spells half of a surrogate
pair. -/
abbrev Spelling := Option String

/-- A JSON value. -/
inductive Json where
  | null
  | bool (value : Bool)
  /-- A number written without fraction and exponent. -/
  | int (value : Int)
  /-- Any other number, as written; a negative zero is one of these. -/
  | real (literal : String)
  | str (value : Spelling)
  | arr (items : List Json)
  | obj (members : List (Spelling × Json))
deriving Inhabited

namespace Json

/-- A string value. -/
def text (s : String) : Json :=
  .str (some s)

/-- A value of the natural numbers. -/
def nat (n : Nat) : Json :=
  .int n

/-- A member of an object. -/
def member (name : String) (value : Json) : Spelling × Json :=
  (some name, value)

/-- An object whose members have proper names. -/
def object (members : List (String × Json)) : Json :=
  .obj (members.map fun (name, value) => (some name, value))

end Json
end Wirelog
