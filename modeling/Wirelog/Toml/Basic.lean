/-!
Values of TOML documents, and tables while a document is read. A document says the same table in
several places: under its own header, under headers of its subtables, and by dotted keys. How a
table came about decides what may still be added to it.
-/
namespace Wirelog

/-- A value. The worth of a floating-point number and the parts of a moment are of no interest
here. -/
inductive Toml where
  /-- A text. -/
  | str (text : String)
  /-- A whole number of 64 bits. -/
  | int (value : Int)
  /-- A floating-point number. -/
  | float
  /-- A truth value. -/
  | bool (value : Bool)
  /-- A date, a time, or both, as printed. -/
  | moment (text : String)
  /-- An array. -/
  | arr (items : List Toml)
  /-- A table. -/
  | table (members : List (String × Toml))
deriving Inhabited

namespace Toml

/-- How a table came about. -/
inductive Origin where
  /-- By its own header. -/
  | header
  /-- By the header of a table below it. -/
  | implied
  /-- By a dotted key. -/
  | dotted
deriving DecidableEq

/-- What a key stands for while a document is read. -/
inductive Node where
  /-- A finished value. -/
  | leaf (value : Toml)
  /-- A table that may still grow. -/
  | table (origin : Origin) (members : List (String × Node))
  /-- An array of tables. The last one may still grow. -/
  | tables (finished : List Toml) (members : List (String × Node))

/-- The keys of a table that may still grow. -/
abbrev Members := List (String × Node)

mutual

/-- The value that a key stands for in the end. -/
def Node.value : Node → Toml
  | .leaf v => v
  | .table _ members => .table (valuesOf members)
  | .tables finished members => .arr (finished ++ [.table (valuesOf members)])

/-- The values of all keys. -/
def valuesOf : List (String × Node) → List (String × Toml)
  | [] => []
  | (key, node) :: rest => (key, node.value) :: valuesOf rest

end

/-- What a key stands for. -/
def find? (key : String) (m : Members) : Option Node :=
  (m.find? (·.1 == key)).map Prod.snd

/-- Lets a key stand for something, in place of what it stood for. -/
def set (key : String) (node : Node) : Members → Members
  | [] => [(key, node)]
  | (k, old) :: rest => if k == key then (key, node) :: rest else (k, old) :: set key node rest

/-- Gives a dotted key a value. The tables on its way are made if they are missing. The last of them
has to be one made by dotted keys, and none may have a header. -/
def put (key : String) : List String → Toml → Members → Option Members
  | [], v, m =>
    match find? key m with
    | none => some (set key (.leaf v) m)
    | some _ => none
  | next :: rest, v, m =>
    match find? key m with
    | none => (put next rest v []).map fun below => set key (.table .dotted below) m
    | some (.table .dotted below) =>
      (put next rest v below).map fun below => set key (.table .dotted below) m
    | some (.table .implied below) =>
      if rest.isEmpty then none
      else (put next rest v below).map fun below => set key (.table .implied below) m
    | some (.tables finished below) =>
      if rest.isEmpty then none
      else (put next rest v below).map fun below => set key (.tables finished below) m
    | some (.table .header _) | some (.leaf _) => none

/-- Changes the table that a header names. An array of tables means its last one. -/
def within (change : Members → Option Members) : List String → Members → Option Members
  | [], m => change m
  | key :: rest, m =>
    match find? key m with
    | none => (within change rest []).map fun below => set key (.table .implied below) m
    | some (.table origin below) =>
      (within change rest below).map fun below => set key (.table origin below) m
    | some (.tables finished below) =>
      (within change rest below).map fun below => set key (.tables finished below) m
    | some (.leaf _) => none

/-- Opens a table under its own header. It must not have been made before, except by headers of
tables below it. -/
def openTable (key : String) (m : Members) : Option Members :=
  match find? key m with
  | none => some (set key (.table .header []) m)
  | some (.table .implied below) => some (set key (.table .header below) m)
  | _ => none

/-- Opens the next table of an array of tables. -/
def openNext (key : String) (m : Members) : Option Members :=
  match find? key m with
  | none => some (set key (.tables [] []) m)
  | some (.tables finished members) =>
    some (set key (.tables (finished ++ [.table (valuesOf members)]) []) m)
  | _ => none

end Toml
end Wirelog
