import Wirelog.Forward.Failure
import Wirelog.Http.Uri
/-!
Targets of requests that are sent on. A server gets the path and query alone; another proxy gets a
full URL, whose host is the one to connect to.
-/
namespace Wirelog.Forward

/-- Why a path with a query is no target, in words. A single character is tried as an authority. -/
def targetFault (text : String) : String :=
  if text.length = 1 then "invalid uri character" else "invalid format"

/-- `origin_target`: the target for a server. -/
def originForm (u : Http.Uri) : Except Failure Http.Uri :=
  let text := u.pathQueryText
  match Http.Uri.parse? text with
  | some target => .ok target
  | none => .error (.protocol ("bad request target '" ++ text ++ "': " ++ targetFault text))

/-- A host with its port, unless it is the default one. -/
def authorityText (host : String) (port : Nat) : String :=
  if port = 80 then host else host ++ ":" ++ Text.natText port

/-- Why a text is no authority, in words. -/
def authorityFault (s : List Char) : String :=
  if s.isEmpty then "empty string"
  else
    let part := s.takeWhile fun c => !Http.endsAuthority c
    let structural (c : Char) : Bool := ":[]@%".toList.contains c
    match part.findIdx? fun c => !structural c && !Http.isAuthorityChar c with
    | some i =>
      if ((part.take i).foldlM Http.AuthorityScan.step {}).isSome then "invalid uri character"
      else "invalid authority"
    | none =>
      match part.foldlM Http.AuthorityScan.step {} with
      | some scan => if scan.accepts then "invalid uri character" else "invalid authority"
      | none => "invalid authority"

/-- Reads an authority that is all of a text. -/
def authority? (text : String) : Option String :=
  match Http.takeAuthority text.toList with
  | some (part, []) => if part.isEmpty then none else some text
  | _ => none

/-- `absolute_target`: the target for another proxy. -/
def absoluteForm (u : Http.Uri) (host : String) (port : Nat) : Except Failure Http.Uri :=
  let text := authorityText host port
  match authority? text with
  | some authority =>
    .ok { scheme := some .http, authority, target := u.pathQuery?.getD ⟨"/", none⟩ }
  | none =>
    .error (.protocol ("bad authority '" ++ text ++ "': " ++ authorityFault text.toList))

end Wirelog.Forward
