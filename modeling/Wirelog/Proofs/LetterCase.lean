import Wirelog.Proofs.RecoveredBodies
import Wirelog.Proofs.TypeSpelling

/-! Letter case in the headers of a body. Media types, charsets and encodings are names without a
case, and the letters of a header may be written in either. Two spellings of a type are of one
kind and declare one charset, and two spellings of an encoding are one encoding, so bodies are
recorded in the same way. The exception is the test for submitted forms, which compares the type
as it is written. -/
namespace Wirelog.LetterCase
open Body hiding sizeOf
open MediaType RecoveredBodies TypeSpelling

/-! ## Types that differ in letter case -/

section Types
variable {s t : String} (same : Text.asciiLower s = Text.asciiLower t)
include same

theorem isTextual_recased : isTextual s = isTextual t := by
  simp only [isTextual, asciiLower_trim, same]

theorem isUtf8ByKind_recased : isUtf8ByKind s = isUtf8ByKind t := by
  simp only [isUtf8ByKind, same]

theorem charsetOf_recased : charsetOf s = charsetOf t := by
  unfold charsetOf
  rw [← param_charset_low s, same, param_charset_low t, isUtf8ByKind_recased same]

theorem textOf_recased (body : Bytes) : textOf s body = textOf t body := by
  unfold textOf
  rw [charsetOf_recased same]

theorem keptOf_recased (keep : Keep) (body : Bytes) : keptOf keep s body = keptOf keep t body := by
  unfold keptOf
  rw [isTextual_recased same, textOf_recased same]

end Types

theorem decompress_recased {e f : Option String}
    (same : e.map Text.asciiLower = f.map Text.asciiLower) (body : Bytes) (limit : Nat) :
    decompress e body limit = decompress f body limit := by
  have names : (e.map fun e => Text.asciiLower (Text.trim e)) =
      f.map fun e => Text.asciiLower (Text.trim e) := by
    simpa [asciiLower_trim, Function.comp_def] using congrArg (Option.map Text.trim) same
  unfold decompress
  rw [names]

/-! ## Headers that differ in letter case -/

/-- An octet with letters in lower case. -/
def lowOctet (b : UInt8) : UInt8 :=
  if 0x41 ≤ b ∧ b ≤ 0x5A then b + 0x20 else b

/-- A header value with letters in lower case. -/
def lowValue (v : Bytes) : List UInt8 :=
  v.octets.map lowOctet

/-- Two header blocks in which media type and encoding differ at most in letter case. -/
structure RecasedBlocks (g h : Http.Headers) : Prop where
  type : (g.get? "content-type").map lowValue = (h.get? "content-type").map lowValue
  encoding : (g.get? "content-encoding").map lowValue = (h.get? "content-encoding").map lowValue

theorem of_octets {p : UInt8 → Prop} (all : ∀ n : Fin 256, p (UInt8.ofFin n)) (b : UInt8) : p b :=
  all b.toFin

theorem isTextOctet_low (b : UInt8) : Http.isTextOctet (lowOctet b) = Http.isTextOctet b :=
  of_octets (p := fun b => Http.isTextOctet (lowOctet b) = Http.isTextOctet b)
    (by decide +kernel) b

theorem char_low (b : UInt8) : Char.ofNat (lowOctet b).toNat = (Char.ofNat b.toNat).toLower :=
  of_octets (p := fun b => Char.ofNat (lowOctet b).toNat = (Char.ofNat b.toNat).toLower)
    (by decide +kernel) b

/-- What a value says in lower case can be told from the value in lower case. -/
theorem valueText_low (v : Bytes) :
    (Http.valueText? v).map Text.asciiLower =
      if (lowValue v).all Http.isTextOctet then
        some (String.ofList ((lowValue v).map fun b => Char.ofNat b.toNat))
      else none := by
  have all : (lowValue v).all Http.isTextOctet = v.octets.all Http.isTextOctet := by
    simp only [lowValue, List.all_map, Function.comp_def, isTextOctet_low]
  unfold Http.valueText?
  rw [all]
  cases v.octets.all Http.isTextOctet with
  | false => rfl
  | true => simp [asciiLower_eq, low, lowValue, char_low, Function.comp_def]

theorem text_recased {g h : Http.Headers} {name : String}
    (same : (g.get? name).map lowValue = (h.get? name).map lowValue) :
    (g.text? name).map Text.asciiLower = (h.text? name).map Text.asciiLower := by
  unfold Http.Headers.text?
  rw [Option.map_bind, Option.map_bind]
  cases left : g.get? name with
  | none =>
    rw [left] at same
    rw [Option.map_eq_none_iff.mp same.symm]
  | some v =>
    rw [left] at same
    obtain ⟨w, right, value⟩ := Option.map_eq_some_iff.mp same.symm
    simp only [right, Option.bind_some, Function.comp_apply, valueText_low, value]

section Blocks
variable {g h : Http.Headers} (same : RecasedBlocks g h)
include same

/-- The types of such blocks differ in letter case alone. -/
theorem mimeType_recased :
    Text.asciiLower (mimeTypeOf g) = Text.asciiLower (mimeTypeOf h) := by
  have types := text_recased same.type
  unfold mimeTypeOf Http.Headers.contentType?
  cases left : g.text? "content-type" with
  | none =>
    rw [left] at types
    rw [Option.map_eq_none_iff.mp types.symm]
  | some s =>
    rw [left] at types
    obtain ⟨t, right, lower⟩ := Option.map_eq_some_iff.mp types.symm
    have trimmed : Text.asciiLower (Text.trim s) = Text.asciiLower (Text.trim t) := by
      rw [asciiLower_trim, asciiLower_trim, lower]
    have empty : (Text.trim s).isEmpty = (Text.trim t).isEmpty := by
      rw [← isEmpty_asciiLower, trimmed, isEmpty_asciiLower]
    simp only [right, Option.map_some, Option.filter_some, empty]
    cases (Text.trim t).isEmpty with
    | true => rfl
    | false => exact trimmed

theorem undone_recased (body : Bytes) (limit : Nat) :
    decompress (g.text? "content-encoding") body limit =
      decompress (h.text? "content-encoding") body limit :=
  decompress_recased (text_recased same.encoding) body limit

/-- The content of a response is the same, but for the type that it repeats. -/
theorem content_recased (limit : Nat) (raw : Bytes) (keep : Keep) :
    contentWithin limit g raw keep =
      { contentWithin limit h raw keep with mimeType := mimeTypeOf g } := by
  have kept := keptOf_recased (mimeType_recased same) keep
  have undone := undone_recased same raw limit
  cases decoded : decompress (h.text? "content-encoding") raw limit with
  | error e =>
    rw [content_undecoded decoded, content_undecoded (undone.trans decoded)]
  | ok plain =>
    rw [content_decoded decoded, content_decoded (undone.trans decoded)]
    simp only [kept]

end Blocks

/-! ## Submitted bodies -/

/-- What is recorded of a submitted body once its encoding is undone, if it counts as a form or does
not, whatever its type is. -/
def recordedAs (form : Bool) (mimeType : String) (keep : Keep) (plain : Plain) :
    Option Archive.PostData :=
  let kept : Option Archive.PostData :=
    if isTextual mimeType || form then
      if keep.text then
        let params := if form then formParams plain.bytes else []
        match textOf mimeType plain.bytes with
        | .ok text => some { mimeType, params, text }
        | .error e =>
          some { mimeType, params, text := Text.Base64.encode plain.bytes,
                 comment := some e.message }
      else none
    else if keep.binary then
      some { mimeType, text := Text.Base64.encode plain.bytes, comment := some base64 }
    else none
  kept.map fun data =>
    if plain.truncated then
      { data with comment := addRemark data.comment (cutNote maxDecoded) }
    else data

/-- What is recorded of a submitted body that counts as a form or does not. -/
def submittedAs (form : Bool) (headers : Http.Headers) (body : Bytes) (keep : Keep) :
    Option Archive.PostData :=
  if body.isEmpty then none
  else
    match decompress (headers.text? "content-encoding") body maxDecoded with
    | .error e =>
      if keep.any then
        some { mimeType := mimeTypeOf headers, text := Text.Base64.encode body,
               comment := some e.message }
      else none
    | .ok plain => recordedAs form (mimeTypeOf headers) keep plain

theorem postData_eq (headers : Http.Headers) (body : Bytes) (keep : Keep) :
    postData headers body keep =
      submittedAs (isForm (mimeTypeOf headers)) headers body keep :=
  rfl

/-- A record under another type. -/
def retyped (mimeType : String) (data : Archive.PostData) : Archive.PostData :=
  { data with mimeType }

/-- A record without fields of a form. -/
def unlisted (data : Archive.PostData) : Archive.PostData :=
  { data with params := [] }

section Submitted
variable {keep : Keep} {plain : Plain}

theorem recordedAs_recased {s t : String} (same : Text.asciiLower s = Text.asciiLower t)
    (form : Bool) (keep : Keep) (plain : Plain) :
    recordedAs form s keep plain = (recordedAs form t keep plain).map (retyped s) := by
  simp only [recordedAs, isTextual_recased same, textOf_recased same]
  cases isTextual t || form with
  | true =>
    cases keep.text with
    | true => cases textOf t plain.bytes <;> cases plain.truncated <;> rfl
    | false => rfl
  | false => cases keep.binary <;> cases plain.truncated <;> rfl

/-- Of a textual type a form is recorded as any other body, with its fields added. -/
theorem recordedAs_textual {mimeType : String} (textual : isTextual mimeType = true) (keep : Keep)
    (plain : Plain) :
    recordedAs false mimeType keep plain =
      (recordedAs true mimeType keep plain).map unlisted := by
  simp only [recordedAs, textual, Bool.true_or, if_true]
  cases keep.text with
  | true => cases textOf mimeType plain.bytes <;> cases plain.truncated <;> rfl
  | false => rfl

/-- Of any other type a form goes by the flag for text, and what is no form by the other flag. -/
theorem recordedAs_binary {mimeType : String} (binary : isTextual mimeType = false) :
    (recordedAs true mimeType keep plain).isSome = keep.text ∧
      (recordedAs false mimeType keep plain).isSome = keep.binary := by
  simp only [recordedAs, binary, Bool.false_or, if_true, Option.isSome_map]
  constructor
  · cases keep.text with
    | true => cases textOf mimeType plain.bytes <;> rfl
    | false => rfl
  · cases keep.binary <;> rfl

/-- Letter case makes no difference once it is settled whether a body counts as a form. -/
theorem submittedAs_recased {g h : Http.Headers} (same : RecasedBlocks g h) (form : Bool)
    (body : Bytes) (keep : Keep) :
    submittedAs form g body keep =
      (submittedAs form h body keep).map (retyped (mimeTypeOf g)) := by
  unfold submittedAs
  rw [undone_recased same]
  cases body.isEmpty with
  | true => rfl
  | false =>
    cases decompress (h.text? "content-encoding") body maxDecoded with
    | error e => cases keep.any <;> rfl
    | ok plain => exact recordedAs_recased (mimeType_recased same) form keep plain

theorem submittedAs_textual {headers : Http.Headers}
    (textual : isTextual (mimeTypeOf headers) = true) (body : Bytes) (keep : Keep) :
    submittedAs false headers body keep = (submittedAs true headers body keep).map unlisted := by
  unfold submittedAs
  cases body.isEmpty with
  | true => rfl
  | false =>
    cases decompress (headers.text? "content-encoding") body maxDecoded with
    | error e => cases keep.any <;> rfl
    | ok plain => exact recordedAs_textual textual keep plain

theorem submittedAs_decoded {headers : Http.Headers} {body : Bytes}
    (something : body.isEmpty = false)
    (decoded : decompress (headers.text? "content-encoding") body maxDecoded = .ok plain)
    (form : Bool) (keep : Keep) :
    submittedAs form headers body keep = recordedAs form (mimeTypeOf headers) keep plain := by
  simp only [submittedAs, something, decoded, Bool.false_eq_true, if_false]

theorem submittedAs_undecoded {headers : Http.Headers} {body : Bytes} {e : CodingError}
    (failed : decompress (headers.text? "content-encoding") body maxDecoded = .error e)
    (form other : Bool) (keep : Keep) :
    submittedAs form headers body keep = submittedAs other headers body keep := by
  simp only [submittedAs, failed]

end Submitted

/-- What is the same of two bodies whose headers differ in letter case alone. -/
structure Caseless (limit : Nat) (g h : Http.Headers) (body : Bytes) (keep : Keep) : Prop where
  /-- The content of a response is the same, but for the type that it repeats. -/
  content : contentWithin limit g body keep =
    { contentWithin limit h body keep with mimeType := mimeTypeOf g }
  /-- A submitted body is, too, if it counts as a form in both cases or in neither. -/
  submitted : isForm (mimeTypeOf g) = isForm (mimeTypeOf h) →
    postData g body keep = (postData h body keep).map (retyped (mimeTypeOf g))
  /-- So is one whose encoding cannot be undone. -/
  undecoded : ∀ e, decompress (h.text? "content-encoding") body maxDecoded = .error e →
    postData g body keep = (postData h body keep).map (retyped (mimeTypeOf g))
  /-- A textual type that counts as a form in one case only has its fields in this case only. -/
  fields : isForm (mimeTypeOf g) = true → isForm (mimeTypeOf h) = false →
    isTextual (mimeTypeOf h) = true →
    postData h body keep = (postData g body keep).map (unlisted ∘ retyped (mimeTypeOf h))
  /-- Any other such type goes by another flag in each of the cases. -/
  flags : isForm (mimeTypeOf g) = true → isForm (mimeTypeOf h) = false →
    isTextual (mimeTypeOf h) = false → body.isEmpty = false →
    ∀ plain, decompress (h.text? "content-encoding") body maxDecoded = .ok plain →
      (postData g body keep).isSome = keep.text ∧ (postData h body keep).isSome = keep.binary

/-- Letter case makes no difference to what is recorded, except that only types in lower case are
taken for forms. -/
theorem letter_case_is_ignored_but_for_forms {g h : Http.Headers} (same : RecasedBlocks g h)
    (limit : Nat) (body : Bytes) (keep : Keep) : Caseless limit g h body keep := by
  have back : RecasedBlocks h g := ⟨same.type.symm, same.encoding.symm⟩
  constructor
  case content => exact content_recased same limit body keep
  case submitted =>
    intro forms
    rw [postData_eq g, postData_eq h, forms]
    exact submittedAs_recased same _ body keep
  case undecoded =>
    intro e failed
    rw [postData_eq g, postData_eq h, submittedAs_recased same,
      submittedAs_undecoded failed _ (isForm (mimeTypeOf h))]
  case fields =>
    intro form other textual
    rw [postData_eq g, postData_eq h, form, other, submittedAs_textual textual,
      submittedAs_recased back true, Option.map_map]
  case flags =>
    intro form other binary something plain decoded
    rw [postData_eq g, postData_eq h, form, other, submittedAs_recased same, Option.isSome_map,
      submittedAs_decoded something decoded, submittedAs_decoded something decoded]
    exact recordedAs_binary binary

/-- A form that says so in lower case. -/
def lowerForm : Http.Headers :=
  .ofList [("content-type", Bytes.ofText "application/x-www-form-urlencoded")]

/-- A form that says so with capitals. -/
def capitalForm : Http.Headers :=
  .ofList [("content-type", Bytes.ofText "Application/X-WWW-Form-Urlencoded")]

theorem recased_forms : RecasedBlocks lowerForm capitalForm :=
  ⟨by decide +kernel, by decide +kernel⟩

theorem letter_case_of_forms :
    Caseless maxDecoded lowerForm capitalForm (Bytes.ofText "a=1") ⟨true, false⟩ :=
  letter_case_is_ignored_but_for_forms recased_forms _ _ _

/-- With the flag for text alone, a form is recorded in lower case and left out with capitals. -/
theorem capital_form_is_left_out :
    RecasedBlocks lowerForm capitalForm ∧
      postData capitalForm (Bytes.ofText "a=1") ⟨true, false⟩ ≠
        (postData lowerForm (Bytes.ofText "a=1") ⟨true, false⟩).map
          (retyped (mimeTypeOf capitalForm)) := by
  refine ⟨recased_forms, fun same => ?_⟩
  have kept := congrArg Option.isSome same
  rw [Option.isSome_map] at kept
  exact absurd kept (by decide +kernel)

end Wirelog.LetterCase
