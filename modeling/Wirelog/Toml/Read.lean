import Wirelog.Toml.Parser
import Wirelog.Text.Ascii
/-!
Reading TOML values as the values that a program wants. A record may be given as a table, or as an
array of its fields in their order; what a record does not know is ignored.
-/
namespace Wirelog.Toml

/-- The key under which a moment stands when a table is asked for. -/
def momentKey : String := "$__toml_private_datetime"

/-- The members of a table. A moment counts as a table of itself. -/
def members? : Toml → Option (List (String × Toml))
  | .table m => some m
  | .moment text => some [(momentKey, .str text)]
  | _ => none

/-- The fields of a record, whose names are given in order. -/
def record? (names : List String) : Toml → Option (List (String × Toml))
  | .arr l => some (names.zip l)
  | v => v.members?

/-- A text. -/
def asText? : Toml → Option String
  | .str s => some s
  | _ => none

/-- A truth value. -/
def asFlag? : Toml → Option Bool
  | .bool b => some b
  | _ => none

/-- A number of so many bits without a sign. -/
def asWord? (width : Nat) : Toml → Option Nat
  | .int i => if 0 ≤ i ∧ i.toNat < 1 <<< width then some i.toNat else none
  | _ => none

/-- An array. -/
def asList? {α : Type} (read : Toml → Option α) : Toml → Option (List α)
  | .arr l => l.mapM read
  | _ => none

/-- A table with texts under all keys. -/
def asTexts? (v : Toml) : Option (List (String × String)) := do
  (← v.members?).mapM fun (key, v) => do return (key, ← v.asText?)

/-- A member of a table; absence gives a default. -/
def field {α : Type} (m : List (String × Toml)) (name : String) (read : Toml → Option α)
    (default : α) : Option α :=
  match m.find? (·.1 == name) with
  | some (_, v) => read v
  | none => some default

/-- A member of a table that may be absent. -/
def optional {α : Type} (m : List (String × Toml)) (name : String) (read : Toml → Option α) :
    Option (Option α) :=
  field m name (fun v => (read v).map some) none

/-- A member of a table that has to be there. -/
def needed {α : Type} (m : List (String × Toml)) (name : String) (read : Toml → Option α) :
    Option α := do
  read (← m.find? (·.1 == name)).2

end Wirelog.Toml
