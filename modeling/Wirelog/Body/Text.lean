import Wirelog.Bytes
import Wirelog.Charset.Label
import Wirelog.MediaType
/-!
Bodies as text. The charset is the one that the media type declares; without a declaration it goes
by the kind of the type.
-/
namespace Wirelog.Body

/-- Why a body is no text. -/
inductive TextError where
  /-- No charset has the declared label. -/
  | unknownCharset (label : String)
  /-- The octets are not text in the charset. -/
  | invalid (charset : String)
deriving DecidableEq

/-- The wording that reports use. -/
def TextError.message : TextError → String
  | unknownCharset label => "unknown charset '" ++ label ++ "'"
  | invalid charset => "body is not valid " ++ charset

/-- `defaults_to_utf8`: types whose text is UTF-8 unless they say otherwise: those that name one of
a few formats. -/
def isUtf8ByKind (contentType : String) : Bool :=
  let lower := (Text.asciiLower contentType).toList
  ["json", "javascript", "xml"].any fun word => Text.contains word.toList lower

/-- The charset of a body of a type. -/
def charsetOf (contentType : String) : Except TextError Charset :=
  match (MediaType.parse? contentType).bind (·.param? "charset") with
  | some label =>
    match Charset.ofLabel? label with
    | some charset => .ok charset
    | none => .error (.unknownCharset label)
  | none => .ok (if isUtf8ByKind contentType then .utf8 else .windows1252)

/-- `decode_text`: the text of a body of a type. -/
def textOf (contentType : String) (body : Bytes) : Except TextError String := do
  let charset ← charsetOf contentType
  match charset.decode body with
  | some text => .ok text
  | none => .error (.invalid charset.name)

end Wirelog.Body
