import Wirelog.Archive.Document
import Wirelog.Body.Coding
import Wirelog.Body.Text
import Wirelog.Http.Headers
import Wirelog.Text.Base64
import Wirelog.Url.Form
/-!
Bodies as archive entries keep them. Two flags say which bodies are kept: those of textual types and
those of all others. A body that does not decode is kept in Base64 with a remark that says why, so
nothing of it is lost.
-/
namespace Wirelog.Body

/-- `BodyCapture`: which bodies are kept. -/
structure Keep where
  /-- Bodies of textual types. -/
  text : Bool
  /-- Bodies of other types. -/
  binary : Bool
deriving DecidableEq

/-- Whether anything is kept. -/
def Keep.any (k : Keep) : Bool :=
  k.text || k.binary

/-- `truncation_note`: the remark on a body that was cut at a limit. -/
def cutNote (limit : Nat) : String :=
  "decoded body truncated at " ++ Text.natText limit ++ " bytes"

/-- `append_comment`: a remark added after an earlier one. -/
def addRemark (earlier : Option String) (remark : String) : Option String :=
  match earlier with
  | some e => some (e ++ "; " ++ remark)
  | none => some remark

/-- A size as archives write it. -/
def sizeOf (b : Bytes) : Int64 :=
  Int64.ofNat b.size

/-- The name under which archives know Base64. -/
def base64 : String :=
  "base64"

/-- The media type of a block, or the one that stands for a missing one. -/
def mimeTypeOf (headers : Http.Headers) : String :=
  headers.contentType?.getD MediaType.unknown

/-- `response_content_within`: the content of a response whose body is decoded up to a limit. -/
def contentWithin (limit : Nat) (headers : Http.Headers) (raw : Bytes) (keep : Keep) :
    Archive.Content :=
  let mimeType := mimeTypeOf headers
  let whole : Archive.Content := { size := sizeOf raw, mimeType }
  let inBase64 (c : Archive.Content) (b : Bytes) : Archive.Content :=
    { c with text := some (Text.Base64.encode b), encoding := some base64 }
  match decompress (headers.text? "content-encoding") raw limit with
  | .error e =>
    { (if keep.any then inBase64 whole raw else whole) with comment := some e.message }
  | .ok plain =>
    let sized : Archive.Content :=
      { whole with
        size := sizeOf plain.bytes
        compression :=
          if plain.bytes.size != raw.size && !plain.truncated then
            some (sizeOf plain.bytes - sizeOf raw)
          else none }
    let kept :=
      if MediaType.isTextual mimeType then
        if keep.text then
          match textOf mimeType plain.bytes with
          | .ok text => { sized with text := some text }
          | .error e => { inBase64 sized plain.bytes with comment := some e.message }
        else sized
      else if keep.binary && !plain.bytes.isEmpty then inBase64 sized plain.bytes
      else sized
    if plain.truncated then
      { kept with comment := addRemark kept.comment (cutNote limit) }
    else kept

/-- `response_content`: the content of a response. -/
def content (headers : Http.Headers) (raw : Bytes) (keep : Keep) : Archive.Content :=
  contentWithin maxDecoded headers raw keep

/-- The fields of a submitted form. -/
def formParams (body : Bytes) : List Archive.Param :=
  (Url.formPairs body.octets).map fun (name, value) => { name, value := some value }

/-- `post_data`: the body of a request, if it is kept. -/
def postData (headers : Http.Headers) (body : Bytes) (keep : Keep) : Option Archive.PostData :=
  if body.isEmpty then none
  else
    let mimeType := mimeTypeOf headers
    let form := MediaType.isForm mimeType
    match decompress (headers.text? "content-encoding") body maxDecoded with
    | .error e =>
      if keep.any then
        some { mimeType, text := Text.Base64.encode body, comment := some e.message }
      else none
    | .ok plain =>
      let kept : Option Archive.PostData :=
        if MediaType.isTextual mimeType || form then
          if keep.text then
            let params := if form then formParams plain.bytes else []
            match textOf mimeType plain.bytes with
            | .ok text => some { mimeType, params, text }
            | .error e =>
              some { mimeType, params, text := Text.Base64.encode plain.bytes,
                     comment := some e.message }
          else none
        else if keep.binary then
          some { mimeType, text := Text.Base64.encode plain.bytes, comment := some base64 }
        else none
      kept.map fun data =>
        if plain.truncated then
          { data with comment := addRemark data.comment (cutNote maxDecoded) }
        else data

end Wirelog.Body
