import Wirelog.Pattern.Search
/-!
Replacing all matches of a pattern. Matches do not overlap, and an empty match right at the end of
the one before does not count. In a template `$n` and `$name` stand for what a group captured, the
name being as long as possible; braces set a name off, and `$$` is a dollar.
-/
namespace Wirelog.Pattern

/-- A piece of a template. -/
inductive Piece where
  /-- Characters that stand for themselves. -/
  | plain (text : List Char)
  /-- What the group of a number captured. -/
  | number (n : Nat)
  /-- What the group of a name captured. -/
  | name (name : String)
deriving DecidableEq

/-- Characters of an unbraced name. -/
def isReferenceChar (c : Char) : Bool :=
  c.isAlphanum || c == '_'

/-- A reference by number where the word is one, else by name. -/
def reference (word : List Char) : Piece :=
  match Text.word? 64 word with
  | some n => .number n
  | none => .name (String.ofList word)

/-- Reads the reference after a dollar: the piece and the rest; `none` when there is none. -/
def takeReference : List Char → Option (Piece × List Char)
  | '\x7b' :: rest =>
    let word := rest.takeWhile (· != '\x7d')
    match rest.drop word.length with
    | _ :: rest => some (reference word, rest)
    | [] => none
  | s =>
    let word := s.takeWhile isReferenceChar
    if word.isEmpty then none else some (reference word, s.drop word.length)

/-- Reads a template. Every round takes a character, so `fuel` is their number. -/
def takePieces : Nat → List Char → List Piece
  | 0, _ => []
  | _, [] => []
  | fuel + 1, '$' :: rest =>
    match rest with
    | '$' :: rest => .plain ['$'] :: takePieces fuel rest
    | _ =>
      match takeReference rest with
      | some (piece, rest) => piece :: takePieces fuel rest
      | none => .plain ['$'] :: takePieces fuel rest
  | fuel + 1, c :: rest => .plain [c] :: takePieces fuel rest

/-- The pieces of a template. -/
def template (text : String) : List Piece :=
  takePieces (text.toList.length + 1) text.toList

/-- What a piece stands for after a match. Groups that do not exist stand for nothing. -/
def Piece.expand (s : Searcher) (t : Chars) (slots : Slots) : Piece → List Char
  | .plain text => text
  | .number n => Searcher.captured t slots n
  | .name word =>
    match s.names.find? (·.1 == word) with
    | some (_, n) => Searcher.captured t slots n
    | none => []

/-- Replaces matches from a place on. `copied` is the place up to which the text has been taken
over, `lastEnd` the end of the match before, and `fuel` bounds the number of searches. -/
def replaceFrom (s : Searcher) (pieces : List Piece) (t : Chars) :
    Nat → Nat → Nat → Option Nat → List Char
  | 0, _, copied, _ => (t.extract copied t.size).toList
  | fuel + 1, place, copied, lastEnd =>
    if t.size < place then (t.extract copied t.size).toList
    else
      match s.find? t place with
      | none => (t.extract copied t.size).toList
      | some slots =>
        match slots[0]?, slots[1]? with
        | some (some i), some (some j) =>
          if i == j && lastEnd == some j then
            replaceFrom s pieces t fuel (place + 1) copied none
          else
            (t.extract copied i).toList ++ (pieces.flatMap (Piece.expand s t slots) ++
              replaceFrom s pieces t fuel j j (some j))
        | _, _ => (t.extract copied t.size).toList

/-- A text with all matches of a pattern replaced. -/
def replaceAll (s : Searcher) (pieces : List Piece) (text : String) : String :=
  let t := text.toList.toArray
  String.ofList (replaceFrom s pieces t (2 * t.size + 4) 0 0 none)

end Wirelog.Pattern
