import Wirelog.Pattern.Syntax
import Wirelog.Text.Blank
/-!
Reading patterns. Groups, classes, counted repetition, flags and escapes follow the usual syntax;
there are neither back references nor looking around, and an escape that means nothing is refused.
Flags hold from where they are set to the end of the group. A pattern that nests too deeply or would
need too large a machine is refused too.
-/
namespace Wirelog.Pattern

/-- The flags in force at a place of a pattern. -/
structure Flags where
  /-- `i`: case does not count. -/
  caseless : Bool := false
  /-- `m`: `^` and `$` hold at lines. -/
  multiLine : Bool := false
  /-- `s`: a dot matches line ends too. -/
  dotAll : Bool := false
  /-- `U`: repetition is lazy unless marked. -/
  swapGreed : Bool := false
  /-- `u`: classes hold characters of all scripts. -/
  unicode : Bool := true
  /-- `R`: carriage returns are line ends. -/
  crlf : Bool := false
  /-- `x`: blanks and comments are passed over. -/
  verbose : Bool := false
deriving DecidableEq

/-- Passes over blanks and comments, where the flags say so. -/
def skipSpace (verbose : Bool) (s : List Char) : List Char :=
  if verbose then go (s.length + 1) s else s
where
  /-- Passes over one run of blanks or one comment at a time. -/
  go : Nat → List Char → List Char
    | 0, s => s
    | fuel + 1, s =>
      match s with
      | '#' :: rest => go fuel ((rest.dropWhile (· != '\n')).drop 1)
      | c :: rest => if Text.isBlank c then go fuel rest else s
      | [] => []

/-- Characters that have a meaning of their own somewhere in a pattern. -/
def isMeta (c : Char) : Bool :=
  "\\.+*?()|[]\x7b\x7d^$#&-~".toList.contains c

/-- Characters that an escape makes plain: all of ASCII but letters, digits and angle brackets. -/
def isEscapable (c : Char) : Bool :=
  isMeta c || (c.toNat < 128 && !c.isAlphanum && c != '<' && c != '>')

/-! ### Items -/

/-- A pattern that has been read, with what is needed to go on. -/
structure Item where
  /-- The pattern. -/
  node : Node
  /-- How deeply it nests. -/
  depth : Nat
  /-- It only sets flags, so it cannot be repeated. -/
  directive : Bool := false

/-- What an escape or a plain character stands for. -/
inductive Atom where
  /-- A character. -/
  | literal (c : Char)
  /-- A class. -/
  | cls (c : CharClass)
  /-- A condition. -/
  | look (l : Look)

/-- The deepest nesting that is read. -/
def maxDepth : Nat := 250

/-- The most octets that the machine for a pattern may take. -/
def maxCost : Nat := 10 * 1024 * 1024

/-- One pattern after another. -/
def sequence (items : List Item) : Item :=
  match items with
  | [] => ⟨.empty, 0, false⟩
  | [item] => { item with directive := false }
  | first :: rest =>
    { node := rest.foldl (fun a b => .seq a b.node) first.node
      depth := 1 + (items.map Item.depth).foldl max 0 }

/-- A choice between patterns. -/
def choice (items : List Item) : Item :=
  match items with
  | [] => ⟨.empty, 0, false⟩
  | [item] => item
  | first :: rest =>
    { node := joined first rest
      depth := 1 + (items.map Item.depth).foldl max 0 }
where
  /-- The choice between one pattern and some others. -/
  joined (first : Item) : List Item → Node
    | [] => first.node
    | second :: rest => .alt first.node (joined second rest)

/-! ### Escapes -/

/-- A class as flags have it: closed under case if need be, then complemented if need be. Without
`u`, characters stand for octets. -/
def closeClass (flags : Flags) (negated : Bool) (cls : CharClass) : CharClass :=
  let cls :=
    if flags.caseless then (if flags.unicode then .caseless cls else .asciiCaseless cls) else cls
  if negated then (if flags.unicode then .compl cls else .diff (.range 0 0xFF) cls) else cls

/-- Whether a class may stand for whole characters: without `u`, an octet beyond ASCII is none. -/
def isSafe (flags : Flags) (cls : CharClass) : Bool :=
  flags.unicode || (List.range 128).all fun n => !cls.mem (Char.ofNat (128 + n))

/-- The class of one of the letters `d`, `s` and `w`. -/
def perlClass (flags : Flags) (letter : Char) : CharClass :=
  let lower := letter.toLower
  let cls :=
    if flags.unicode then
      if lower == 'd' then digitClass else if lower == 's' then spaceClass else wordClass
    else
      if lower == 'd' then .range 48 57
      else if lower == 's' then .ofRanges [('\t', '\r'), (' ', ' ')]
      else asciiWordClass
  if letter == lower then cls
  else if flags.unicode then .compl cls
  else .diff (.range 0 0xFF) cls

/-- The class of word characters. -/
def wordsOf (flags : Flags) : CharClass :=
  if flags.unicode then wordClass else asciiWordClass

/-- Reads the hexadecimal digits of an escape after its letter. -/
def takeHex (flags : Flags) (width : Nat) (s : List Char) : Option (Char × List Char) :=
  match skipSpace flags.verbose s with
  | '\x7b' :: rest => braced rest [] (rest.length + 1)
  | s => fixed width s []
where
  /-- The character of a code point. -/
  char? (back : List Char) : Option Char :=
    match Text.numeral 16 Text.hexValue back.reverse with
    | some n => if h : n.isValidChar then some (Char.ofNatAux n h) else none
    | none => none
  /-- Digits up to a closing brace. -/
  braced (s : List Char) (back : List Char) : Nat → Option (Char × List Char)
    | 0 => none
    | fuel + 1 =>
      match skipSpace flags.verbose s with
      | '\x7d' :: rest =>
        if back.isEmpty then none
        else (char? back).map fun c => (c, skipSpace flags.verbose rest)
      | c :: rest => if (Text.hexValue c).isSome then braced rest (c :: back) fuel else none
      | [] => none
  /-- A fixed number of digits. -/
  fixed (count : Nat) (s : List Char) (back : List Char) : Option (Char × List Char) :=
    match count, s with
    | 0, _ => none
    | 1, c :: rest =>
      if (Text.hexValue c).isSome then
        (char? (c :: back)).filter (fun ch => flags.unicode || ch.toNat < 128 || width != 2)
          |>.map fun ch => (ch, skipSpace flags.verbose rest)
      else none
    | count + 2, c :: rest =>
      if (Text.hexValue c).isSome then
        fixed (count + 1) (skipSpace flags.verbose rest) (c :: back)
      else none
    | _, [] => none

/-- The characters before the first occurrence of a part, and those after it. -/
def cutAt (part : List Char) : List Char → Option (List Char × List Char)
  | [] => none
  | c :: rest =>
    match Text.dropPrefix? part (c :: rest) with
    | some tail => some ([], tail)
    | none => (cutAt part rest).map fun (a, b) => (c :: a, b)

/-- The class of a name between braces, which may be a property with a value. -/
def namedClass? (name : List Char) : Option (Bool × CharClass) :=
  match cutAt ['!', '='] name with
  | some (property, value) => (classOfValue? property value).map fun c => (true, c)
  | none =>
    match (cutAt [':'] name).or (cutAt ['='] name) with
    | some (property, value) => (classOfValue? property value).map fun c => (false, c)
    | none => (classOf? name).map fun c => (false, c)

/-- Reads a class named by a property, after the letter `p` or `P`. -/
def takeProperty (flags : Flags) (negated : Bool) (s : List Char) :
    Option (CharClass × List Char) := do
  let (name, rest) ←
    match skipSpace flags.verbose s with
    | '\x7b' :: rest => braced rest [] (rest.length + 1)
    | c :: rest => if c == '\\' then none else some ([c], skipSpace flags.verbose rest)
    | [] => none
  if !flags.unicode then none
  else
    let (different, cls) ← namedClass? name
    some (closeClass flags (negated != different) cls, rest)
where
  /-- The name up to a closing brace. -/
  braced (s : List Char) (back : List Char) : Nat → Option (List Char × List Char)
    | 0 => none
    | fuel + 1 =>
      match skipSpace flags.verbose s with
      | '\x7d' :: rest => some (back.reverse, rest)
      | c :: rest => braced rest (c :: back) fuel
      | [] => none

/-- Whether a character may stand in the name of a word edge. -/
def isEdgeChar (c : Char) : Bool :=
  c.isAlpha || c == '-'

/-- Reads a word edge after its letter: `b`, or one of the named kinds in braces. Braces around
anything that cannot be such a name are left for a repetition. -/
def takeWordEdge (flags : Flags) (s : List Char) : Option (Look × List Char) :=
  let words := wordsOf flags
  match s with
  | '\x7b' :: rest =>
    match skipSpace flags.verbose rest with
    | [] => none
    | c :: more =>
      if !isEdgeChar c then some (.wordEdge words, s)
      else
        match name (c :: more) [] (more.length + 2) with
        | some ("start", rest) => some (.wordStart words, rest)
        | some ("end", rest) => some (.wordEnd words, rest)
        | some ("start-half", rest) => some (.wordStartHalf words, rest)
        | some ("end-half", rest) => some (.wordEndHalf words, rest)
        | _ => none
  | _ => some (.wordEdge words, s)
where
  /-- The name up to a closing brace. -/
  name (s : List Char) (back : List Char) : Nat → Option (String × List Char)
    | 0 => none
    | fuel + 1 =>
      match s with
      | '\x7d' :: rest => some (String.ofList back.reverse, rest)
      | c :: rest =>
        if isEdgeChar c then name (skipSpace flags.verbose rest) (c :: back) fuel else none
      | [] => none

/-- Reads an escape after its backslash. -/
def takeEscape (flags : Flags) : List Char → Option (Atom × List Char)
  | [] => none
  | c :: rest =>
    if c.isDigit then none
    else if c == 'x' then (takeHex flags 2 rest).map fun (ch, rest) => (.literal ch, rest)
    else if c == 'u' then (takeHex flags 4 rest).map fun (ch, rest) => (.literal ch, rest)
    else if c == 'U' then (takeHex flags 8 rest).map fun (ch, rest) => (.literal ch, rest)
    else if c == 'p' || c == 'P' then
      (takeProperty flags (c == 'P') rest).map fun (cls, rest) => (.cls cls, rest)
    else if "dswDSW".toList.contains c then some (.cls (perlClass flags c), rest)
    else if isEscapable c then some (.literal c, rest)
    else
      match c with
      | 'a' => some (.literal '\x07', rest)
      | 'f' => some (.literal '\x0c', rest)
      | 't' => some (.literal '\t', rest)
      | 'n' => some (.literal '\n', rest)
      | 'r' => some (.literal '\r', rest)
      | 'v' => some (.literal '\x0b', rest)
      | 'A' => some (.look .textStart, rest)
      | 'z' => some (.look .textEnd, rest)
      | 'b' => (takeWordEdge flags rest).map fun (l, rest) => (.look l, rest)
      | 'B' => some (.look (.noWordEdge (wordsOf flags)), rest)
      | '<' => some (.look (.wordStart (wordsOf flags)), rest)
      | '>' => some (.look (.wordEnd (wordsOf flags)), rest)
      | _ => none

/-! ### Classes in brackets -/

/-- The classes of ASCII that have names. -/
def asciiClass? : String → Option CharClass
  | "alnum" => some (.ofRanges [('0', '9'), ('A', 'Z'), ('a', 'z')])
  | "alpha" => some (.ofRanges [('A', 'Z'), ('a', 'z')])
  | "ascii" => some (.range 0 127)
  | "blank" => some (.ofRanges [('\t', '\t'), (' ', ' ')])
  | "cntrl" => some (.union (.range 0 31) (.range 127 127))
  | "digit" => some (.range 48 57)
  | "graph" => some (.range 33 126)
  | "lower" => some (.range 97 122)
  | "print" => some (.range 32 126)
  | "punct" => some (.ofRanges [('!', '/'), (':', '@'), ('[', '\x60'), ('\x7b', '~')])
  | "space" => some (.ofRanges [('\t', '\r'), (' ', ' ')])
  | "upper" => some (.range 65 90)
  | "word" => some asciiWordClass
  | "xdigit" => some (.ofRanges [('0', '9'), ('A', 'F'), ('a', 'f')])
  | _ => none

/-- Reads a named class of ASCII such as `[:alpha:]`, if there is one. -/
def takeAsciiClass (flags : Flags) (s : List Char) : Option (CharClass × List Char) :=
  match s with
  | '[' :: ':' :: rest =>
    let (negated, rest) := match rest with
      | '^' :: r => (true, r)
      | r => (false, r)
    let name := rest.takeWhile (· != ':')
    match rest.drop name.length with
    | ':' :: ']' :: rest =>
      (asciiClass? (String.ofList name)).map fun cls => (closeClass flags negated cls, rest)
    | _ => none
  | _ => none

/-- An operation between two parts of a class. -/
inductive SetOp where
  | inter
  | diff
  | symmDiff

/-- A part of a class that is still open. -/
inductive OpenClass where
  /-- A bracket with the items before it in the class around it. -/
  | bracket (negated : Bool) (outer : List (CharClass × Nat))
  /-- An operation that lacks its right side. -/
  | op (op : SetOp) (left : CharClass) (depth : Nat)

/-- The union of items, with its depth. -/
def unionItems (items : List (CharClass × Nat)) : CharClass × Nat :=
  match items with
  | [item] => item
  | [] => (.none, 0)
  | _ =>
    (items.foldr (fun item rest => .union item.1 rest) .none,
      1 + (items.map Prod.snd).foldl max 0)

/-- Closes the case of one side of an operation. -/
def closeSide (flags : Flags) (cls : CharClass) : CharClass :=
  closeClass flags false cls

/-- Finishes an operation that waits for the class read last. -/
def finishOp (flags : Flags) (right : CharClass × Nat) (stack : List OpenClass) :
    (CharClass × Nat) × List OpenClass :=
  match stack with
  | .op op left depth :: stack =>
    let l := closeSide flags left
    let r := closeSide flags right.1
    let joined : CharClass := match op with
      | .inter => .inter l r
      | .diff => .diff l r
      | .symmDiff => .symmDiff l r
    ((joined, 1 + max depth right.2), stack)
  | _ => (right, stack)

/-- Reads the opening of a class after its bracket: negation, and leading characters that would end
the class elsewhere. -/
def takeClassStart (flags : Flags) (s : List Char) :
    Option (Bool × List (CharClass × Nat) × List Char) := do
  let s ← filled (skipSpace flags.verbose s)
  let (negated, s) ← match s with
    | '^' :: rest => (filled (skipSpace flags.verbose rest)).map fun s => (true, s)
    | _ => some (false, s)
  let (dashes, s) ← leadingDashes s (s.length + 1) []
  match dashes, s with
  | [], ']' :: rest => do
    let s ← filled (skipSpace flags.verbose rest)
    some (negated, [(.single ']', 0)], s)
  | _, _ => some (negated, dashes, s)
where
  /-- A text that has not ended. -/
  filled (s : List Char) : Option (List Char) :=
    if s.isEmpty then none else some s
  /-- Leading dashes, which stand for themselves. -/
  leadingDashes (s : List Char) :
      Nat → List (CharClass × Nat) → Option (List (CharClass × Nat) × List Char)
    | 0, acc => some (acc, s)
    | fuel + 1, acc =>
      match s with
      | '-' :: rest => do
        let s ← filled (skipSpace flags.verbose rest)
        leadingDashes s fuel ((.single '-', 0) :: acc)
      | _ => some (acc, s)

/-- Reads a character or an escape inside a class. -/
def takeClassAtom (flags : Flags) : List Char → Option (Atom × List Char)
  | '\\' :: rest => takeEscape flags rest
  | c :: rest => some (.literal c, rest)
  | [] => none

/-- A character of a class; without `u` it has to be ASCII. -/
def classLiteral (flags : Flags) (c : Char) : Option CharClass :=
  if flags.unicode || c.toNat < 128 then some (.single c) else none

/-- Reads a character, a range or an escape inside a class. -/
def takeClassItem (flags : Flags) (s : List Char) : Option (CharClass × List Char) := do
  let (first, s) ← takeClassAtom flags s
  let s := skipSpace flags.verbose s
  let alone : Option CharClass := match first with
    | .literal c => classLiteral flags c
    | .cls c => some c
    | .look _ => none
  match s with
  | [] => none
  | '-' :: rest =>
    match skipSpace flags.verbose rest with
    | ']' :: _ | '-' :: _ => do return (← alone, s)
    | [] => none
    | rest => do
      let (second, after) ← takeClassAtom flags rest
      match first, second with
      | .literal a, .literal b =>
        if a.toNat ≤ b.toNat && (flags.unicode || b.toNat < 128) then
          some (.range a.toNat b.toNat, after)
        else none
      | _, _ => none
  | _ => do return (← alone, s)

/-- Reads a class after its opening bracket has been pushed on the stack; `items` are those of the
innermost bracket, last one first. -/
def takeClassBody (flags : Flags) (stack : List OpenClass) (items : List (CharClass × Nat))
    (s : List Char) : Nat → Option ((CharClass × Nat) × List Char)
  | 0 => none
  | fuel + 1 =>
    let operation (op : SetOp) (rest : List Char) : Option ((CharClass × Nat) × List Char) :=
      let (left, stack) := finishOp flags (unionItems items.reverse) stack
      takeClassBody flags (.op op left.1 left.2 :: stack) [] rest fuel
    match skipSpace flags.verbose s with
    | [] => none
    | '[' :: rest =>
      match takeAsciiClass flags ('[' :: rest) with
      | some (cls, rest) => takeClassBody flags stack ((cls, 0) :: items) rest fuel
      | none =>
        match takeClassStart flags rest with
        | some (negated, leading, rest) =>
          takeClassBody flags (.bracket negated items :: stack) leading rest fuel
        | none => none
    | ']' :: rest =>
      let (cls, stack) := finishOp flags (unionItems items.reverse) stack
      match stack with
      | .bracket negated outer :: stack =>
        let whole := (closeClass flags negated cls.1, 1 + cls.2)
        if stack.isEmpty then some (whole, rest)
        else takeClassBody flags stack (whole :: outer) rest fuel
      | _ => none
    | '&' :: '&' :: rest => operation .inter rest
    | '-' :: '-' :: rest => operation .diff rest
    | '~' :: '~' :: rest => operation .symmDiff rest
    | s =>
      match takeClassItem flags s with
      | some (cls, rest) => takeClassBody flags stack ((cls, 0) :: items) rest fuel
      | none => none

/-- Reads a class in brackets after the first bracket. -/
def takeClass (flags : Flags) (s : List Char) : Option ((CharClass × Nat) × List Char) := do
  let (negated, leading, rest) ← takeClassStart flags s
  let (cls, rest) ← takeClassBody flags [.bracket negated []] leading rest (s.length + 1)
  if isSafe flags cls.1 then some (cls, rest) else none

/-! ### Repetition -/

/-- Reads a number of at most 32 bits with blanks around it. -/
def takeCount (flags : Flags) (s : List Char) : Option (Nat × List Char) :=
  digits (s.dropWhile Text.isBlank) [] (s.length + 1)
where
  /-- The digits of the number. -/
  digits (s : List Char) (back : List Char) : Nat → Option (Nat × List Char)
    | 0 => none
    | fuel + 1 =>
      match s with
      | c :: rest =>
        if c.isDigit then digits (skipSpace flags.verbose rest) (c :: back) fuel
        else finish back (c :: rest)
      | [] => finish back []
  /-- The number, and the text after it. -/
  finish (back s : List Char) : Option (Nat × List Char) :=
    if back.isEmpty then none
    else
      match Text.numeral 10 Text.digitValue back.reverse with
      | some n => if n < UInt32.size then some (n, s.dropWhile Text.isBlank) else none
      | none => none

/-- Reads a counted repetition after its opening brace: the bounds and the rest. -/
def takeBounds (flags : Flags) (s : List Char) : Option (Nat × Option Nat × List Char) := do
  let s := skipSpace flags.verbose s
  if s.isEmpty then none
  else
    let (low, s) ← takeCount flags s
    match s with
    | '\x7d' :: rest => some (low, some low, rest)
    | ',' :: rest =>
      match skipSpace flags.verbose rest with
      | '\x7d' :: rest => some (low, none, rest)
      | [] => none
      | rest => do
        let (high, s) ← takeCount flags rest
        match s with
        | '\x7d' :: rest => if low ≤ high then some (low, some high, rest) else none
        | _ => none
    | _ => none

/-- Repeats the item read last; there has to be one that is no directive. -/
def repeatLast (flags : Flags) (items : List Item) (low : Nat) (high : Option Nat) (lazy : Bool) :
    Option (List Item) :=
  match items with
  | [] => none
  | item :: before =>
    if item.directive then none
    else
      some ({ node := .times low high (lazy == flags.swapGreed) item.node,
              depth := 1 + item.depth } :: before)

/-! ### Groups -/

/-- Whether a character may stand in the name of a group. -/
def isNameChar (first : Bool) (c : Char) : Bool :=
  c == '_' || isAlphabetic c || (!first && (c == '.' || c == '[' || c == ']' || isNumeric c))

/-- Sets or clears one flag. -/
def Flags.set (f : Flags) (on : Bool) : Char → Option Flags
  | 'i' => some { f with caseless := on }
  | 'm' => some { f with multiLine := on }
  | 's' => some { f with dotAll := on }
  | 'U' => some { f with swapGreed := on }
  | 'u' => some { f with unicode := on }
  | 'R' => some { f with crlf := on }
  | 'x' => some { f with verbose := on }
  | _ => none

/-- Reads flags up to a colon or a closing parenthesis: the flags and the text from there on. No
flag may come twice, and a minus has to be followed by a flag. -/
def takeFlags (flags : Flags) (s : List Char) : Option (Flags × List Char) :=
  go flags true [] false s
where
  /-- Reads one sign at a time; `seen` are the signs so far. -/
  go (flags : Flags) (on : Bool) (seen : List Char) (dangling : Bool) :
      List Char → Option (Flags × List Char)
    | [] => none
    | c :: rest =>
      if c == ':' || c == ')' then
        if dangling then none
        else if c == ')' && seen.isEmpty then none
        else some (flags, c :: rest)
      else if seen.contains c then none
      else if c == '-' then go flags false (c :: seen) true rest
      else
        match flags.set on c with
        | some flags => go flags on (c :: seen) false rest
        | none => none

/-- What opens a group. -/
inductive Opening where
  /-- Flags for the rest of the group around it. -/
  | directive (flags : Flags)
  /-- A group that is not captured. -/
  | plain (flags : Flags)
  /-- A captured group. -/
  | capture
  /-- A captured group with a name. -/
  | named (name : String)

/-- Reads the name of a group up to its closing angle bracket. -/
def takeGroupName (s : List Char) : Option (String × List Char) :=
  let name := s.takeWhile (· != '>')
  match name, s.drop name.length with
  | c :: cs, '>' :: rest =>
    if isNameChar true c && cs.all (isNameChar false) then some (String.ofList name, rest) else none
  | _, _ => none

/-- Reads what follows an opening parenthesis. -/
def takeOpening (flags : Flags) (s : List Char) : Option (Opening × List Char) :=
  match skipSpace flags.verbose s with
  | '?' :: rest =>
    match rest with
    | 'P' :: '<' :: rest => (takeGroupName rest).map fun (n, rest) => (.named n, rest)
    | '=' :: _ | '!' :: _ | '<' :: '=' :: _ | '<' :: '!' :: _ => none
    | '<' :: rest => (takeGroupName rest).map fun (n, rest) => (.named n, rest)
    | _ =>
      match takeFlags flags rest with
      | some (flags, ')' :: rest) => some (.directive flags, rest)
      | some (flags, ':' :: rest) => some (.plain flags, rest)
      | _ => none
  | s => some (.capture, s)

/-! ### The whole -/

/-- A group that is still open: what has been read around it. -/
structure Frame where
  /-- The alternatives before the present one, last one first. -/
  alts : List Item
  /-- The items of the present alternative, last one first. -/
  items : List Item
  /-- The number under which the group is captured. -/
  number : Option Nat
  /-- The flags around the group. -/
  flags : Flags

/-- The state of reading a pattern. -/
structure Reading where
  /-- The groups that are open, innermost first. -/
  frames : List Frame := []
  /-- The alternatives of the innermost group before the present one, last one first. -/
  alts : List Item := []
  /-- The items of the present alternative, last one first. -/
  items : List Item := []
  /-- The flags in force. -/
  flags : Flags := {}
  /-- How many groups are captured so far. -/
  captures : Nat := 0
  /-- The named groups with their numbers. -/
  names : List (String × Nat) := []

namespace Reading

/-- The innermost group as read so far. -/
def present (r : Reading) : Item :=
  choice ((sequence r.items.reverse :: r.alts).reverse)

/-- Adds an item. -/
def push (r : Reading) (node : Node) (depth : Nat) : Reading :=
  { r with items := ⟨node, depth, false⟩ :: r.items }

/-- Opens a group. -/
def enter (r : Reading) (number : Option Nat) (flags : Flags) : Reading :=
  { r with
    frames := ⟨r.alts, r.items, number, r.flags⟩ :: r.frames, alts := [], items := [], flags }

/-- Closes the innermost group, if one is open. -/
def leave (r : Reading) : Option Reading :=
  match r.frames with
  | [] => none
  | f :: frames =>
    let inner := r.present
    let node := match f.number with
      | some n => .group n inner.node
      | none => inner.node
    some { r with
      frames, alts := f.alts, flags := f.flags,
      items := ⟨node, 1 + inner.depth, false⟩ :: f.items }

/-- A character as flags have it. -/
def literal (r : Reading) (c : Char) : Reading :=
  let cls :=
    if r.flags.caseless then
      if r.flags.unicode then .ofList (caseVariants c)
      else if c.toLower == c.toUpper then .single c
      else .ofList [c.toLower, c.toUpper]
    else .single c
  r.push (.one cls) 0

/-- The class of a dot; without `u` it would match octets that are no text. -/
def dot? (flags : Flags) : Option CharClass :=
  if !flags.unicode then none
  else if flags.dotAll then some (.range 0 0x10FFFF)
  else if flags.crlf then some (.compl (.ofList ['\r', '\n']))
  else some (.compl (.single '\n'))

/-- The condition of `^`. -/
def lineStart (flags : Flags) : Look :=
  if flags.multiLine then (if flags.crlf then .crlfStart else .lineStart) else .textStart

/-- The condition of `$`. -/
def lineEnd (flags : Flags) : Look :=
  if flags.multiLine then (if flags.crlf then .crlfEnd else .lineEnd) else .textEnd

/-- Splits off the mark of a lazy repetition. -/
def takeLazy : List Char → Bool × List Char
  | '?' :: rest => (true, rest)
  | s => (false, s)

/-- Reads one item at the start of a text that has not ended. -/
def step (r : Reading) (c : Char) (rest : List Char) : Option (Reading × List Char) :=
  let repeated (low : Nat) (high : Option Nat) (rest : List Char) :
      Option (Reading × List Char) :=
    let (lazy, rest) := takeLazy rest
    (repeatLast r.flags r.items low high lazy).map fun items => ({ r with items }, rest)
  match c with
  | '(' =>
    match takeOpening r.flags rest with
    | none => none
    | some (.directive flags, rest) =>
      some ({ r with items := ⟨.empty, 0, true⟩ :: r.items, flags }, rest)
    | some (.plain flags, rest) => some (r.enter none flags, rest)
    | some (.capture, rest) =>
      some ({ r with captures := r.captures + 1 }.enter (some (r.captures + 1)) r.flags, rest)
    | some (.named name, rest) =>
      if r.names.any (·.1 == name) then none
      else
        let r := { r with
          captures := r.captures + 1, names := r.names ++ [(name, r.captures + 1)] }
        some (r.enter (some r.captures) r.flags, rest)
  | ')' => r.leave.map fun r => (r, rest)
  | '|' =>
    some ({ r with alts := sequence r.items.reverse :: r.alts, items := [] }, rest)
  | '[' =>
    (takeClass r.flags rest).map fun (cls, rest) => (r.push (.one cls.1) cls.2, rest)
  | '?' => repeated 0 (some 1) rest
  | '*' => repeated 0 none rest
  | '+' => repeated 1 none rest
  | '\x7b' =>
    if r.items.isEmpty then none
    else (takeBounds r.flags rest).bind fun (low, high, rest) =>
      repeated low high (skipSpace r.flags.verbose rest)
  | '.' => (dot? r.flags).map fun cls => (r.push (.one cls) 0, rest)
  | '^' => some (r.push (.look (lineStart r.flags)) 0, rest)
  | '$' => some (r.push (.look (lineEnd r.flags)) 0, rest)
  | '\\' =>
    match takeEscape r.flags rest with
    | some (.literal c, rest) => some (r.literal c, rest)
    | some (.cls cls, rest) =>
      if isSafe r.flags cls then some (r.push (.one cls) 0, rest) else none
    | some (.look l, rest) => some (r.push (.look l) 0, rest)
    | none => none
  | c => some (r.literal c, rest)

/-- Reads items to the end of the text. Every item takes a character, so `fuel` is their number. -/
def run (r : Reading) (s : List Char) : Nat → Option Reading
  | 0 => none
  | fuel + 1 =>
    match skipSpace r.flags.verbose s with
    | [] => some r
    | c :: rest =>
      match r.step c rest with
      | some (r, rest) => r.run rest fuel
      | none => none

end Reading

/-- A pattern as read. -/
structure Parsed where
  /-- The pattern. -/
  node : Node
  /-- How many groups are captured. -/
  captures : Nat
  /-- The named groups with their numbers. -/
  names : List (String × Nat)

/-- Reads a pattern. -/
def parse? (text : String) : Option Parsed := do
  let s := text.toList
  let r ← Reading.run {} s (s.length + 1)
  if !r.frames.isEmpty then none
  else
    let whole := r.present
    if maxDepth < whole.depth || maxCost < whole.node.cost then none
    else some ⟨whole.node, r.captures, r.names⟩

end Wirelog.Pattern
