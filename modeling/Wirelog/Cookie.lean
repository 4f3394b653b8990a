import Wirelog.Text.Ascii
import Wirelog.Text.Split
import Wirelog.Text.Blank
/-!
Cookies as requests send them and as responses set them. Values stay as written: quotes are kept
and percent signs are not decoded.
-/
namespace Wirelog

/-- A cookie that a response sets. -/
structure Cookie where
  /-- The name, never empty. -/
  name : String
  /-- The value. -/
  value : String
  /-- The `Path` attribute; the last one counts. -/
  path : Option String := none
  /-- The `Domain` attribute without a leading dot; the last that is not empty counts. -/
  domain : Option String := none
  /-- The `Expires` attribute as written; the first one counts. -/
  expires : Option String := none
  /-- `HttpOnly` is present. -/
  httpOnly : Bool := false
  /-- `Secure` is present. -/
  secure : Bool := false
deriving DecidableEq

namespace Cookie

/-- The trimmed name and value of `name=value`; there is none without a `=` or with no name. -/
def pair? (s : List Char) : Option (String × String) :=
  match Text.cutFirst '=' s with
  | some (name, value) =>
    let name := Text.trimList name
    if name.isEmpty then none
    else some (String.ofList name, String.ofList (Text.trimList value))
  | none => none

/-- The cookies of a request header: its parts between semicolons that are pairs. -/
def ofRequest (header : String) : List (String × String) :=
  (Text.splitOn ';' header.toList).filterMap pair?

/-- An attribute's trimmed name in lower case, and its trimmed value when there is a `=`. -/
def attributeOf (s : List Char) : String × Option String :=
  match Text.cutFirst '=' s with
  | some (name, value) =>
    (Text.asciiLower (String.ofList (Text.trimList name)),
      some (String.ofList (Text.trimList value)))
  | none => (Text.asciiLower (String.ofList (Text.trimList s)), none)

/-- Takes one attribute into a cookie; unknown ones are ignored. -/
def apply (c : Cookie) (s : List Char) : Cookie :=
  match attributeOf s with
  | ("secure", _) => { c with secure := true }
  | ("httponly", _) => { c with httpOnly := true }
  | ("path", some v) => { c with path := some v }
  | ("domain", some v) =>
    if v.isEmpty then c
    else { c with domain := some (String.ofList ((Text.dropPrefix? ['.'] v.toList).getD v.toList)) }
  | ("expires", some v) => if c.expires.isNone then { c with expires := some v } else c
  | _ => c

/-- The cookie that a response header sets, when it is one. -/
def ofResponse? (header : String) : Option Cookie :=
  match Text.splitOn ';' header.toList with
  | [] => none
  | first :: attributes =>
    (pair? first).map fun (name, value) => attributes.foldl apply { name, value }

end Cookie
end Wirelog
