import Wirelog.Text.Ascii
import Wirelog.Text.Split
import Wirelog.Text.Blank
/-!
Media types (`type/subtype+suffix; name=value`). Reading is strict: one stray character, a
parameter without `=`, or an open quote refuses the whole text. Classification of a body as text
goes by a short list of prefixes first, and by the structured suffix of a readable type after that.
-/
namespace Wirelog

/-- A media type in lower case, except that values of parameters other than `charset` keep their
case. -/
structure MediaType where
  /-- What stands before the slash. -/
  top : String
  /-- What stands after it, the suffix included. -/
  sub : String
  /-- What stands after the last `+` of the subtype, unless the subtype starts with that `+`. -/
  suffix : Option String
  /-- Parameters in order. -/
  params : List (String × String)
deriving DecidableEq

namespace MediaType

/-- The characters of types, names and unquoted values. -/
def isTokenChar (c : Char) : Bool :=
  c.isAlphanum || "!#$%&'*+-.^_`|~".toList.contains c

/-- The characters that may stand between quotes. -/
def isQuotable (c : Char) : Bool :=
  31 < c.toNat && c.toNat != 127

/-- A parameter as it stands in the text: where its name and value start, and both texts. -/
structure RawParam where
  /-- Offset of the name. -/
  nameAt : Nat
  /-- The name. -/
  name : List Char
  /-- Offset of the value, after an opening quote. -/
  valueAt : Nat
  /-- The value without its quotes. -/
  value : List Char

/-- A quoted value up to its closing quote. A quote right after the opening one is text. -/
def takeQuoted : List Char → Option (List Char × List Char)
  | [] => none
  | c :: rest =>
    if isQuotable c then go [c] rest else none
where
  /-- Continues a value that already holds characters. -/
  go (value : List Char) : List Char → Option (List Char × List Char)
    | [] => none
    | c :: rest =>
      if c == '"' then some (value.reverse, rest)
      else if isQuotable c then go (c :: value) rest
      else none

/-- What follows a closing quote: blanks, then the end or a semicolon. -/
def afterQuote : List Char → Option (List Char)
  | [] => some []
  | c :: rest => if c == ';' then some rest else if c == ' ' then afterQuote rest else none

/-- Reads one parameter at an offset: the parameter and the text after its semicolon. -/
def takeParam (offset : Nat) (s : List Char) : Option (RawParam × List Char) :=
  let name := s.takeWhile isTokenChar
  match s.drop name.length with
  | '=' :: rest =>
    if name.isEmpty then none
    else
      let at' := offset + name.length + 1
      match rest with
      | '"' :: quoted =>
        match takeQuoted quoted with
        | some (value, tail) =>
          (afterQuote tail).map fun after => (⟨offset, name, at' + 1, value⟩, after)
        | none => none
      | _ =>
        let value := rest.takeWhile isTokenChar
        match rest.drop value.length with
        | [] => some (⟨offset, name, at', value⟩, [])
        | ';' :: after => if value.isEmpty then none else some (⟨offset, name, at', value⟩, after)
        | _ => none
  | _ => none

/-- Reads parameters up to the end of the text; blanks before a name are skipped. Each step takes a
character at least, so the length of the text is fuel enough. -/
def takeParams (fuel offset : Nat) (s : List Char) : Option (List RawParam) :=
  match fuel, s with
  | _, [] => some []
  | 0, _ :: _ => none
  | fuel + 1, ' ' :: rest => takeParams fuel (offset + 1) rest
  | fuel + 1, s =>
    match takeParam offset s with
    | some (p, after) =>
      (takeParams fuel (offset + (s.length - after.length)) after).map (p :: ·)
    | none => none

/-- The five characters that a declared UTF-8 takes when written plainly. -/
def utf8Label : List Char :=
  "utf-8".toList

/-- Whether a parameter is the plain declaration of UTF-8 that directly follows the subtype after
one blank; it needs no table of parameters while it stands alone. -/
def declaresUtf8 (semicolon : Nat) (p : RawParam) : Bool :=
  p.nameAt == semicolon + 2 && p.name.map Char.toLower == "charset".toList &&
    p.value.map Char.toLower == utf8Label

/-- The parameters as named values. A leading plain declaration of UTF-8 that others follow is cut
from the text by position, five characters from right after the `=`. -/
def settle (whole : List Char) (semicolon : Nat) (raw : List RawParam) : List (String × String) :=
  let plain (p : RawParam) : String × String :=
    let name := p.name.map Char.toLower
    (String.ofList name,
      String.ofList (if name == "charset".toList then p.value.map Char.toLower else p.value))
  match raw with
  | p :: rest =>
    if declaresUtf8 semicolon p then
      if rest.isEmpty then [("charset", "utf-8")]
      else
        let label := (whole.drop (semicolon + 10)).take 5
        ("charset", String.ofList (label.map Char.toLower)) :: rest.map plain
    else raw.map plain
  | [] => []

/-- The part of a subtype after its last `+`; a `+` at the very start does not count. -/
def suffixOf (sub : List Char) : Option String :=
  match sub with
  | [] => none
  | _ :: tail => (Text.cutLast '+' tail).map fun (_, s) => String.ofList s

/-- Reads a media type. -/
def parse? (text : String) : Option MediaType :=
  if text == "*/*" then some ⟨"*", "*", none, []⟩
  else
    let s := text.toList
    let top := s.takeWhile isTokenChar
    match s.drop top.length with
    | '/' :: rest =>
      if top.isEmpty then none
      else
        let sub := rest.takeWhile isTokenChar
        let semicolon := top.length + 1 + sub.length
        let lower := sub.map Char.toLower
        let whole (params : List (String × String)) : MediaType :=
          ⟨String.ofList (top.map Char.toLower), String.ofList lower, suffixOf lower, params⟩
        match rest.drop sub.length with
        | [] => some (whole [])
        | ';' :: tail =>
          if sub.isEmpty then none
          else (takeParams (tail.length + 1) (semicolon + 1) tail).map fun raw =>
            whole (settle s semicolon raw)
        | _ => none
    | _ => none

/-- The value of a parameter, by its name in lower case. -/
def param? (m : MediaType) (name : String) : Option String :=
  (m.params.find? (·.1 == name)).map Prod.snd

/-- The type that a body has when its message names none. -/
def unknown : String :=
  "application/octet-stream"

/-- Starts of types whose bodies are text. -/
def textualHeads : List String :=
  ["text/", "application/x-javascript", "application/javascript", "application/json",
    "application/xml", "application/xhtml+xml"]

/-- `is_textual`: whether bodies of a type are text: by the start of the type, or by a suffix
`+json` or `+xml` of a type that can be read. -/
def isTextual (contentType : String) : Bool :=
  let lower := Text.asciiLower (Text.trim contentType)
  textualHeads.any (fun p => (Text.dropPrefix? p.toList lower.toList).isSome) ||
    match (parse? lower).bind MediaType.suffix with
    | some s => s == "json" || s == "xml"
    | none => false

/-- The start of the type of URL-encoded forms. Types are compared as written. -/
def isForm (contentType : String) : Bool :=
  (Text.dropPrefix? "application/x-www-form-urlencoded".toList contentType.toList).isSome

end MediaType
end Wirelog
