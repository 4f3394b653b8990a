import Wirelog.Toml.Scalar
/-!
Reading TOML documents. A document is a row of lines, each empty, a comment, a header, or a key with
its value; values in brackets may run over several lines.
-/
namespace Wirelog.Toml

/-- The greatest number of parts that a key may have, and of brackets that may nest. -/
def maxDepth : Nat := 79

/-- Characters of a key without quotes. -/
def isKeyChar (c : Char) : Bool :=
  c.isAlphanum || c == '-' || c == '_'

/-- Reads one part of a key. -/
def keyPart : List Char → Option (String × List Char)
  | '"' :: rest => quoted [] rest
  | '\'' :: rest => literal rest
  | s =>
    let name := s.takeWhile isKeyChar
    if name.isEmpty then none else some (String.ofList name, s.drop name.length)

/-- Reads a dotted key of at most so many parts, with the blanks around each: its first part, the
others, and the rest of the text. -/
def key? : Nat → List Char → Option (String × List String × List Char)
  | 0, _ => none
  | n + 1, s => do
    let (part, rest) ← keyPart (skip s)
    match skip rest with
    | '.' :: rest =>
      let (next, more, rest) ← key? n rest
      some (part, next :: more, rest)
    | rest => some (part, [], rest)

/-- Skips blanks, line ends and comments. A comment ends at the end of its line. -/
def gap (inComment : Bool) : List Char → Option (List Char)
  | '\r' :: '\n' :: rest => gap false rest
  | '\n' :: rest => gap false rest
  | c :: rest =>
    if inComment then (if isPlain c then gap true rest else none)
    else if isBlank c then gap false rest
    else if c == '#' then gap true rest
    else some (c :: rest)
  | [] => if inComment then none else some []

mutual

/-- Reads a value. `fuel` bounds the number of values that may nest or follow one another, for
which the length of the text is enough; `depth` bounds the nesting. -/
def value (fuel depth : Nat) (s : List Char) : Option (Toml × List Char) :=
  match fuel with
  | 0 => none
  | fuel + 1 =>
    match s with
    | '[' :: rest =>
      match depth, gap false rest with
      | _ + 1, some (']' :: rest) => some (.arr [], rest)
      | depth + 1, some rest => (items fuel depth rest).map fun (l, rest) => (.arr l, rest)
      | _, _ => none
    | '\x7b' :: rest =>
      match depth, skip rest with
      | _ + 1, '\x7d' :: rest => some (.table [], rest)
      | depth + 1, rest =>
        (pairs fuel depth [] rest).map fun (m, rest) => (.table (valuesOf m), rest)
      | 0, _ => none
    | '"' :: _ | '\'' :: _ => (text? s).map fun (t, rest) => (.str t, rest)
    | 't' :: 'r' :: 'u' :: 'e' :: rest => some (.bool true, rest)
    | 'f' :: 'a' :: 'l' :: 's' :: 'e' :: rest => some (.bool false, rest)
    | s => (moment? s).or (number s)

/-- Reads the elements of an array up to its closing bracket, which may follow a comma. -/
def items (fuel depth : Nat) (s : List Char) : Option (List Toml × List Char) :=
  match fuel with
  | 0 => none
  | fuel + 1 =>
    match value fuel depth s with
    | none => none
    | some (x, rest) =>
      match gap false rest with
      | some (']' :: rest) => some ([x], rest)
      | some (',' :: rest) =>
        match gap false rest with
        | some (']' :: rest) => some ([x], rest)
        | some rest => (items fuel depth rest).map fun (xs, rest) => (x :: xs, rest)
        | none => none
      | _ => none

/-- Reads the keys and values of a table in braces up to the closing one. -/
def pairs (fuel depth : Nat) (m : Members) (s : List Char) : Option (Members × List Char) :=
  match fuel with
  | 0 => none
  | fuel + 1 =>
    match key? maxDepth s with
    | some (key, path, '=' :: rest) =>
      match value fuel depth (skip rest) with
      | none => none
      | some (v, rest) =>
        match put key path v m with
        | none => none
        | some m =>
          match skip rest with
          | '\x7d' :: rest => some (m, rest)
          | ',' :: rest => pairs fuel depth m rest
          | _ => none
    | _ => none

end

/-- Reads the end of a line: blanks, a comment, and the line end, unless the text ends here. -/
def lineEnd (s : List Char) : Option (List Char) :=
  let s := skip s
  let rest := match s with
    | '#' :: rest => rest.dropWhile isPlain
    | s => s
  match rest with
  | [] => some []
  | '\n' :: rest => some rest
  | '\r' :: '\n' :: rest => some rest
  | _ => none

/-- What has been read of a document. -/
structure Document where
  /-- The keys of the whole document. -/
  root : Members := []
  /-- The header that the present lines stand under. -/
  header : List String := []

namespace Document

/-- Reads one line that does not start with a blank: the document with it and the rest. -/
def line (d : Document) (s : List Char) : Option (Document × List Char) :=
  match s with
  | '[' :: '[' :: rest => do
    let (key, path, rest) ← key? maxDepth rest
    let ']' :: ']' :: rest := rest | none
    let last := (key :: path).getLast (List.cons_ne_nil key path)
    let root ← within (openNext last) (key :: path).dropLast d.root
    return ({ root, header := key :: path }, ← lineEnd rest)
  | '[' :: rest => do
    let (key, path, rest) ← key? maxDepth rest
    let ']' :: rest := rest | none
    let last := (key :: path).getLast (List.cons_ne_nil key path)
    let root ← within (openTable last) (key :: path).dropLast d.root
    return ({ root, header := key :: path }, ← lineEnd rest)
  | '\n' :: _ | '\r' :: _ | '#' :: _ => do
    return (d, ← lineEnd s)
  | s => do
    let (key, path, rest) ← key? maxDepth s
    let '=' :: rest := rest | none
    let (v, rest) ← value (rest.length + 1) maxDepth (skip rest)
    let root ← within (put key path v) d.header d.root
    return ({ d with root }, ← lineEnd rest)

/-- Reads lines to the end of the text. Every line takes at least one character, so as many lines
as there are characters are enough. -/
def lines : Nat → Document → List Char → Option Document
  | lineCount, d, s =>
    match skip s, lineCount with
    | [], _ => some d
    | _, 0 => none
    | s, lineCount + 1 =>
      match d.line s with
      | some (d, rest) => lines lineCount d rest
      | none => none

end Document

/-- Reads a document, which may start with a byte order mark. -/
def parse? (s : String) : Option (List (String × Toml)) :=
  let cs := match s.toList with
    | '\uFEFF' :: rest => rest
    | cs => cs
  (Document.lines cs.length {} cs).map fun d => valuesOf d.root

end Wirelog.Toml
