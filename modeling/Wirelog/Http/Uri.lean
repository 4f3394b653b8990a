import Wirelog.Text.Ascii
import Wirelog.Text.Split
/-!
Request targets. A target is absolute (`scheme://authority/path?query`), a path with a query, a
bare authority, or `*`. Reading checks the characters of each part and keeps the text of the
parts as written, apart from two things: the schemes `http` and `https` lose their letter case, and
a fragment is dropped. Printing writes an empty path as `/` wherever a path belongs.
-/
namespace Wirelog.Http

/-- The scheme of an absolute target. -/
inductive Scheme where
  | http
  | https
  /-- Any other scheme, as written. -/
  | other (name : String)
deriving DecidableEq, Inhabited

namespace Scheme

/-- The scheme as printed. -/
def text : Scheme → String
  | http => "http"
  | https => "https"
  | other name => name

end Scheme

/-- A path with an optional query. Both parts may be empty. -/
structure PathQuery where
  /-- Everything before the `?`. -/
  path : String := ""
  /-- Everything after it, when there is one. -/
  query : Option String := none
deriving DecidableEq, Inhabited

namespace PathQuery

/-- The path and query as one text, nothing added. -/
def raw (p : PathQuery) : String :=
  match p.query with
  | some q => p.path ++ "?" ++ q
  | none => p.path

/-- The path, `/` standing for an empty one. -/
def pathText (p : PathQuery) : String :=
  if p.path.isEmpty then "/" else p.path

/-- The path and query as one text, `/` standing for an empty one. -/
def text (p : PathQuery) : String :=
  if p.raw.isEmpty then "/" else p.raw

end PathQuery

/-- A request target in its parts. Absence of a scheme or of an authority is an empty part. -/
structure Uri where
  /-- The scheme of an absolute target. -/
  scheme : Option Scheme := none
  /-- User, host and port as written; empty when there is no authority. -/
  authority : String := ""
  /-- Path and query. -/
  target : PathQuery := {}
deriving DecidableEq, Inhabited

/-- Characters of an authority, its delimiters included. -/
def isAuthorityChar (c : Char) : Bool :=
  c.isAlphanum || "!#$&'()*+,-./:;=?@[]_~".toList.contains c

/-- Characters of a scheme. -/
def isSchemeChar (c : Char) : Bool :=
  c.isAlphanum || "+-.~".toList.contains c

/-- Characters of a path. Quotes and braces are let through because clients send them, and so is
everything beyond ASCII. -/
def isPathChar (c : Char) : Bool :=
  let n := c.toNat
  n == 0x21 || n == 0x22 || (0x24 ≤ n && n ≤ 0x3B) || n == 0x3D || (0x40 ≤ n && n ≤ 0x5F) ||
    0x61 ≤ n

/-- Characters of a query. -/
def isQueryChar (c : Char) : Bool :=
  let n := c.toNat
  n == 0x21 || (0x24 ≤ n && n ≤ 0x3B) || n == 0x3D || 0x3F ≤ n

/-- What a pass over the characters of an authority has seen. -/
structure AuthorityScan where
  /-- Colons since the last `@` or `]`. -/
  colons : Nat := 0
  /-- A `[` was seen. -/
  opened : Bool := false
  /-- A `]` was seen. -/
  closed : Bool := false
  /-- A `%` was seen since the last `@` or `]`. -/
  percent : Bool := false
  /-- The last character was `@`. -/
  endsWithAt : Bool := false

/-- One character of an authority; `none` refuses the text. -/
def AuthorityScan.step (s : AuthorityScan) (c : Char) : Option AuthorityScan :=
  let s := { s with endsWithAt := false }
  if c == ':' then if s.colons ≥ 8 then none else some { s with colons := s.colons + 1 }
  else if c == '[' then if s.percent || s.opened then none else some { s with opened := true }
  else if c == ']' then
    if !s.opened || s.closed then none
    else some { s with closed := true, colons := 0, percent := false }
  else if c == '@' then some { s with endsWithAt := true, colons := 0, percent := false }
  else if c == '%' then some { s with percent := true }
  else if isAuthorityChar c then some s
  else none

/-- Whether a pass may end: brackets pair up, at most one colon leads to a port, something follows
the user, and no `%` stands in the host. -/
def AuthorityScan.accepts (s : AuthorityScan) : Bool :=
  s.opened == s.closed && s.colons ≤ 1 && !s.endsWithAt && !s.percent

/-- Whether a character ends the authority. -/
def endsAuthority (c : Char) : Bool :=
  c == '/' || c == '?' || c == '#'

/-- Reads an authority, possibly an empty one, up to the first `/`, `?` or `#`: its characters and
the rest of the text. -/
def takeAuthority (s : List Char) : Option (List Char × List Char) :=
  let part := s.takeWhile fun c => !endsAuthority c
  match part.foldlM AuthorityScan.step {} with
  | some scan => if scan.accepts then some (part, s.drop part.length) else none
  | none => none

/-- Reads a path with an optional query up to a fragment, which is dropped unread. -/
def readPathQuery (s : List Char) : Option PathQuery :=
  let path := s.takeWhile fun c => c != '?' && c != '#'
  let rest := s.drop path.length
  if !path.all isPathChar then none
  else match rest with
    | '?' :: tail =>
      let query := tail.takeWhile (· != '#')
      if query.all isQueryChar then some ⟨String.ofList path, some (String.ofList query)⟩ else none
    | _ => some ⟨String.ofList path, none⟩

/-- The part of a text before `://`, when it is a scheme: at most 64 characters of the class. -/
def takeScheme (s : List Char) : Except Unit (Option (Scheme × List Char)) :=
  let lower := s.map Char.toLower
  if (Text.dropPrefix? "http://".toList lower).isSome then .ok (some (.http, s.drop 7))
  else if (Text.dropPrefix? "https://".toList lower).isSome then .ok (some (.https, s.drop 8))
  else
    let name := s.takeWhile isSchemeChar
    match s.drop name.length with
    | ':' :: '/' :: '/' :: rest =>
      if name.length > 64 then .error () else .ok (some (.other (String.ofList name), rest))
    | _ => .ok none

namespace Uri

/-- The longest target that is read, in octets. -/
def maxLength : Nat := 65534

/-- Reads a request target; `none` when the text is none. -/
def parse? (text : String) : Option Uri :=
  let s := text.toList
  if text.utf8ByteSize > maxLength then none
  else match s with
    | [] => none
    | ['*'] => some { target := ⟨"*", none⟩ }
    | '/' :: _ => (readPathQuery s).map fun p => { target := p }
    | _ =>
      match takeScheme s with
      | .error _ => none
      | .ok none =>
        match takeAuthority s with
        | some (part, []) => if part.isEmpty then none else some { authority := text }
        | _ => none
      | .ok (some (scheme, rest)) =>
        match takeAuthority rest with
        | some (part, tail) =>
          if part.isEmpty then none
          else (readPathQuery tail).map fun p => ⟨some scheme, String.ofList part, p⟩
        | none => none

/-- The path as printed: `/` stands for an empty one, but a bare authority has no path at all. -/
def pathText (u : Uri) : String :=
  if u.scheme.isNone && u.target.raw.isEmpty then "" else u.target.pathText

/-- The path and query when the target has any: a bare authority has none. -/
def pathQuery? (u : Uri) : Option PathQuery :=
  if u.scheme.isSome || u.authority.isEmpty then some u.target else none

/-- The path and query as a request line has them: a bare authority has the root. -/
def pathQueryText (u : Uri) : String :=
  match u.pathQuery? with
  | some p => p.text
  | none => "/"

/-- The target as text. -/
def text (u : Uri) : String :=
  (match u.scheme with
    | some s => s.text ++ "://"
    | none => "") ++ u.authority ++ u.pathText ++
  (match u.target.query with
    | some q => "?" ++ q
    | none => "")

/-- The authority without the user before its last `@`. -/
def hostPort (authority : List Char) : List Char :=
  match Text.cutLast '@' authority with
  | some (_, rest) => rest
  | none => authority

/-- The host of an authority: in brackets for an address literal, else up to the colon. -/
def hostOf (authority : List Char) : List Char :=
  match hostPort authority with
  | '[' :: rest => '[' :: rest.takeWhile (· != ']') ++ [']']
  | s => s.takeWhile (· != ':')

/-- The port of an authority: a word of 16 bits after its last colon. -/
def portOf (authority : List Char) : Option Nat :=
  match Text.cutLast ':' authority with
  | some (_, digits) => Text.word? 16 digits
  | none => none

/-- The host, when there is an authority. -/
def host? (u : Uri) : Option String :=
  if u.authority.isEmpty then none else some (String.ofList (hostOf u.authority.toList))

/-- The port that the authority names. -/
def port? (u : Uri) : Option Nat :=
  if u.authority.isEmpty then none else portOf u.authority.toList

end Uri
end Wirelog.Http
