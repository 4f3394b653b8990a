import Wirelog.Text.Blank
import Wirelog.Url.Domain
/-!
The query of a URL as browsers read URLs. A text that is no URL has no query: it needs a scheme,
and where the scheme calls for a host, a host that can be one and a port of 16 bits.
-/
namespace Wirelog.Url

/-- Kinds of schemes that are read by rules of their own. -/
inductive SchemeKind where
  /-- Schemes with a host, such as `http`. -/
  | hosted
  /-- The scheme of local files. -/
  | file
  /-- Every other scheme. -/
  | opaquePath
deriving DecidableEq

/-- The kind of a scheme given in lower case. -/
def SchemeKind.of (scheme : String) : SchemeKind :=
  if ["http", "https", "ws", "wss", "ftp"].contains scheme then .hosted
  else if scheme == "file" then .file
  else .opaquePath

/-- Control characters and the blank, which are dropped from both ends of a URL. -/
def isControlOrBlank (c : Char) : Bool :=
  c.toNat ≤ 0x20

/-- The host at the head of a text: up to a colon outside brackets. -/
def takeHost (bracketed : Bool) : List Char → List Char × List Char
  | [] => ([], [])
  | c :: rest =>
    if c == ':' && !bracketed then ([], c :: rest)
    else
      let bracketed := c == '[' || (c != ']' && bracketed)
      let (host, tail) := takeHost bracketed rest
      (c :: host, tail)

/-- Whether a port after the host is none or a word of 16 bits, which a backslash may end. -/
def isPortPart : List Char → Bool
  | [] => true
  | ':' :: rest =>
    match Text.numeral 10 Text.digitValue (rest.takeWhile (· != '\\')) with
    | some n => n < 65536
    | none => false
  | _ => false

/-- Whether the authority of a URL can be one. The user, up to the last `@`, is free. -/
def isAuthority (kind : SchemeKind) (s : List Char) : Bool :=
  let (hasUser, rest) := match Text.cutLast '@' s with
    | some (_, rest) => (true, rest)
    | none => (false, s)
  let (host, port) := takeHost false rest
  isPortPart port &&
    match kind with
    | .opaquePath => if host.isEmpty then !hasUser && port.isEmpty else isOpaqueHost host
    | _ => !host.isEmpty && isHost host

/-- Whether a character ends the authority of a URL. -/
def endsAuthority (kind : SchemeKind) (c : Char) : Bool :=
  c == '/' || c == '?' || c == '#' || (c == '\\' && kind != .opaquePath)

/-- Whether a text names a drive: a letter and a colon or a bar. -/
def isDrive : List Char → Bool
  | [letter, mark] => letter.isAlpha && (mark == ':' || mark == '|')
  | _ => false

/-- Whether what follows the scheme and its colon can be the rest of a URL. -/
def isHierarchy (kind : SchemeKind) (rest : List Char) : Bool :=
  match kind with
  | .hosted =>
    let tail := rest.dropWhile fun c => c == '/' || c == '\\'
    isAuthority kind (tail.takeWhile fun c => !endsAuthority kind c)
  | .opaquePath =>
    match rest with
    | '/' :: '/' :: tail => isAuthority kind (tail.takeWhile fun c => !endsAuthority kind c)
    | _ => true
  | .file =>
    match rest with
    | a :: b :: tail =>
      if (a == '/' || a == '\\') && (b == '/' || b == '\\') then
        let host := tail.takeWhile fun c => !endsAuthority kind c
        host.isEmpty || isDrive host || isHost host
      else true
    | _ => true

/-- Cuts a scheme in lower case from its rest: a letter, then letters, digits, `+`, `-` and `.`. -/
def takeUrlScheme (s : List Char) : Option (String × List Char) :=
  let name := s.takeWhile fun c => c.isAlphanum || "+-.".toList.contains c
  match name, s.drop name.length with
  | c :: _, ':' :: rest =>
    if c.isAlpha then some (Text.asciiLower (String.ofList name), rest) else none
  | _, _ => none

/-- The query of a URL: between the first `?` and the fragment. -/
def query? (url : String) : Option String :=
  let s := (Text.dropTail isControlOrBlank (Text.dropLead isControlOrBlank url.toList)).filter
    fun c => !isIgnored c
  match takeUrlScheme s with
  | none => none
  | some (scheme, rest) =>
    if isHierarchy (SchemeKind.of scheme) rest then
      let body := rest.takeWhile (· != '#')
      match Text.cutFirst '?' body with
      | some (_, query) => some (String.ofList query)
      | none => none
    else none

/-- The name-value pairs of a URL's query, in order. A URL that cannot be read has none. -/
def queryPairs (url : String) : List (String × String) :=
  match query? url with
  | some q => formPairs q.toUTF8.data.toList
  | none => []

end Wirelog.Url
