/-!
Cutting a text at separators. `splitOn` gives every field, empty ones included, so joining the
fields with the separator gives the text back.
-/
namespace Wirelog.Text

/-- Cuts at every separator; there is always at least one field. -/
def splitOn (sep : Char) : List Char → List (List Char)
  | [] => [[]]
  | c :: rest =>
    if c == sep then [] :: splitOn sep rest
    else match splitOn sep rest with
      | [] => [[c]]
      | field :: fields => (c :: field) :: fields

/-- Cuts at the first separator; `none` when there is none. -/
def cutFirst (sep : Char) : List Char → Option (List Char × List Char)
  | [] => none
  | c :: rest =>
    if c == sep then some ([], rest)
    else (cutFirst sep rest).map fun (a, b) => (c :: a, b)

/-- Cuts at the last separator; `none` when there is none. -/
def cutLast (sep : Char) (s : List Char) : Option (List Char × List Char) :=
  (cutFirst sep s.reverse).map fun (after, before) => (before.reverse, after.reverse)

/-- The words between runs of characters of a class. -/
def words (p : Char → Bool) (s : List Char) : List (List Char) :=
  go [] s
where
  /-- Collects the present word backwards in `word`. -/
  go (word : List Char) : List Char → List (List Char)
    | [] => if word.isEmpty then [] else [word.reverse]
    | c :: rest =>
      if p c then (if word.isEmpty then go [] rest else word.reverse :: go [] rest)
      else go (c :: word) rest

/-- The text after a leading part; `none` when the text does not start with it. -/
def dropPrefix? (lead s : List Char) : Option (List Char) :=
  match lead, s with
  | [], s => some s
  | _ :: _, [] => none
  | a :: lead, b :: s => if a == b then dropPrefix? lead s else none

/-- The text before a trailing part; `none` when the text does not end with it. -/
def dropSuffix? (tail s : List Char) : Option (List Char) :=
  (dropPrefix? tail.reverse s.reverse).map List.reverse

/-- Whether `part` occurs as one run of characters. -/
def contains (part : List Char) : List Char → Bool
  | [] => part.isEmpty
  | c :: rest => (dropPrefix? part (c :: rest)).isSome || contains part rest

theorem splitOn_ne_nil (sep : Char) (s : List Char) : splitOn sep s ≠ [] := by
  cases s with
  | nil => simp [splitOn]
  | cons c rest =>
    unfold splitOn
    split
    · simp
    · split <;> simp

end Wirelog.Text
