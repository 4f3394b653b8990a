import Wirelog.Body.Record

/-! Which bodies are kept. The two flags are gates for two kinds of bodies, and the media type alone
says of which kind a body is. A body whose encoding cannot be undone is of neither kind, since nobody
can tell what is in it, and either flag lets it through. All that the flags do to a record is done by
this one gate, also where a charset is unknown or the octets are no text in it, so the flag for the
other kind makes no difference to anything that is recorded. -/
namespace Wirelog.BodyGates
open Body

/-- What the flags take a body for. -/
inductive Kind where
  /-- Its encoding is undone and its type is textual. -/
  | text
  /-- Its encoding is undone and its type is not. -/
  | binary
  /-- Its encoding cannot be undone. -/
  | undecoded
deriving DecidableEq

/-- Whether the flags let a body through. -/
def Kind.passes (keep : Keep) : Kind → Bool
  | text => keep.text
  | binary => keep.binary
  | undecoded => keep.any

/-- A body with its encoding undone up to a limit, if it can be undone. -/
def undone? (limit : Nat) (headers : Http.Headers) (body : Bytes) : Option Bytes :=
  match decompress (headers.text? "content-encoding") body limit with
  | .ok plain => some plain.bytes
  | .error _ => none

/-- The kind of a body by what counts as textual. -/
def kindOf (limit : Nat) (headers : Http.Headers) (body : Bytes) (textual : Bool) : Kind :=
  match undone? limit headers body with
  | some _ => if textual then .text else .binary
  | none => .undecoded

/-- The kind of the body of a response. -/
def answerKind (limit : Nat) (headers : Http.Headers) (body : Bytes) : Kind :=
  kindOf limit headers body (MediaType.isTextual (mimeTypeOf headers))

/-- The kind of a submitted body, for which forms are textual. -/
def submittedKind (headers : Http.Headers) (body : Bytes) : Kind :=
  kindOf maxDecoded headers body
    (MediaType.isTextual (mimeTypeOf headers) || MediaType.isForm (mimeTypeOf headers))

section Gates
variable (limit : Nat) (headers : Http.Headers) (body : Bytes) {keep other : Keep}

theorem kindOf_error {e : CodingError} (textual : Bool)
    (failed : decompress (headers.text? "content-encoding") body limit = .error e) :
    kindOf limit headers body textual = .undecoded := by
  simp only [kindOf, undone?, failed]

theorem kindOf_ok {plain : Plain} (textual : Bool)
    (decoded : decompress (headers.text? "content-encoding") body limit = .ok plain) :
    kindOf limit headers body textual = if textual then .text else .binary := by
  simp only [kindOf, undone?, decoded]

/-- A record goes by the gate of a body if it looks at one flag only: at that for text behind a
textual type, at the other behind any other type, and where the encoding cannot be undone at whether
one of them is set. -/
theorem by_gate {α : Type} {record : Keep → α} {textual : Bool}
    (undecoded : ∀ e, decompress (headers.text? "content-encoding") body limit = .error e →
      keep.any = other.any → record keep = record other)
    (text : ∀ plain, decompress (headers.text? "content-encoding") body limit = .ok plain →
      textual = true → keep.text = other.text → record keep = record other)
    (binary : ∀ plain, decompress (headers.text? "content-encoding") body limit = .ok plain →
      textual = false → keep.binary = other.binary → record keep = record other)
    (same : (kindOf limit headers body textual).passes keep =
      (kindOf limit headers body textual).passes other) : record keep = record other := by
  cases decoded : decompress (headers.text? "content-encoding") body limit with
  | error e =>
    rw [kindOf_error _ _ _ _ decoded] at same
    exact undecoded e decoded same
  | ok plain =>
    rw [kindOf_ok _ _ _ _ decoded] at same
    cases textual with
    | true => exact text plain decoded rfl same
    | false => exact binary plain decoded rfl same

/-- The content of a response goes by the gate of its kind alone. -/
theorem content_by_gate
    (same : (answerKind limit headers body).passes keep =
      (answerKind limit headers body).passes other) :
    contentWithin limit headers body keep = contentWithin limit headers body other := by
  refine by_gate limit headers body ?undecoded ?text ?binary same
  case undecoded =>
    intro e failed either
    simp only [contentWithin, failed, either]
  case text =>
    intro plain decoded textual flag
    simp only [contentWithin, decoded, textual, flag, ↓reduceIte]
  case binary =>
    intro plain decoded textual flag
    simp only [contentWithin, decoded, textual, flag, Bool.false_eq_true, ↓reduceIte]

/-- So does the record of a submitted body. -/
theorem postData_by_gate
    (same : (submittedKind headers body).passes keep =
      (submittedKind headers body).passes other) :
    postData headers body keep = postData headers body other := by
  refine by_gate maxDecoded headers body ?undecoded ?text ?binary same
  case undecoded =>
    intro e failed either
    simp only [postData, failed, either]
  case text =>
    intro plain decoded textual flag
    simp only [postData, decoded, textual, flag, ↓reduceIte]
  case binary =>
    intro plain decoded textual flag
    simp only [postData, decoded, textual, flag, Bool.false_eq_true, ↓reduceIte]

/-- With both flags clear no body is kept. -/
theorem content_without_flags : (contentWithin limit headers body ⟨false, false⟩).text = none := by
  simp only [contentWithin]
  cases decompress (headers.text? "content-encoding") body limit with
  | error e => rfl
  | ok plain =>
    simp only [Bool.false_and, Bool.false_eq_true, ↓reduceIte, ite_self]
    split <;> rfl

theorem postData_without_flags : postData headers body ⟨false, false⟩ = none := by
  simp only [postData]
  cases decompress (headers.text? "content-encoding") body maxDecoded with
  | error e => simp [Keep.any]
  | ok plain => simp

/-- With both flags set every body is kept, unless it is neither textual nor anything at all. -/
theorem content_with_flags :
    (contentWithin limit headers body ⟨true, true⟩).text.isSome =
      !(answerKind limit headers body == .binary &&
        (undone? limit headers body).any ByteArray.isEmpty) := by
  simp only [answerKind, kindOf, undone?, contentWithin]
  cases decompress (headers.text? "content-encoding") body limit with
  | error e => rfl
  | ok plain =>
    -- A cut adds a remark and nothing else.
    obtain ⟨bytes, truncated⟩ := plain
    cases MediaType.isTextual (mimeTypeOf headers) with
    | true =>
      cases readable : textOf (mimeTypeOf headers) bytes <;> cases truncated <;>
        simp [readable]
    | false =>
      cases empty : bytes.isEmpty <;> cases truncated <;> simp [empty]

theorem postData_with_flags :
    (postData headers body ⟨true, true⟩).isSome = !body.isEmpty := by
  simp only [postData]
  cases body.isEmpty with
  | true => rfl
  | false =>
    cases decompress (headers.text? "content-encoding") body maxDecoded with
    | error e => rfl
    | ok plain =>
      cases MediaType.isTextual (mimeTypeOf headers) || MediaType.isForm (mimeTypeOf headers) with
      | true =>
        cases readable : textOf (mimeTypeOf headers) plain.bytes <;> simp [readable]
      | false => simp

/-- Every gate is open with both flags set and closed with both clear. -/
theorem passes_both (kind : Kind) (flag : Bool) : kind.passes ⟨flag, flag⟩ = flag := by
  cases kind <;> cases flag <;> rfl

/-- So the flags come to both or to none. -/
theorem content_by_both :
    contentWithin limit headers body keep =
      contentWithin limit headers body
        ⟨(answerKind limit headers body).passes keep,
          (answerKind limit headers body).passes keep⟩ :=
  content_by_gate limit headers body (passes_both ..).symm

theorem postData_by_both :
    postData headers body keep =
      postData headers body
        ⟨(submittedKind headers body).passes keep, (submittedKind headers body).passes keep⟩ :=
  postData_by_gate headers body (passes_both ..).symm

end Gates

/-- What the flags decide about a body, be it that of a response or a submitted one. -/
structure Gated (limit : Nat) (headers : Http.Headers) (body : Bytes) (keep : Keep) : Prop where
  /-- The content of a response has a text only through the gate of its kind. -/
  content : (contentWithin limit headers body keep).text.isSome = true →
    (answerKind limit headers body).passes keep = true
  /-- Behind an open gate it has one, unless there is nothing to keep. -/
  contentKept : (answerKind limit headers body).passes keep = true →
    (contentWithin limit headers body keep).text = none →
    answerKind limit headers body = .binary ∧
      (undone? limit headers body).any ByteArray.isEmpty = true
  /-- A submitted body has a record just through the gate of its kind. -/
  submitted : (postData headers body keep).isSome = true ↔
    body.isEmpty = false ∧ (submittedKind headers body).passes keep = true
  /-- Other flags that leave the gate as it is leave the whole content as it is. -/
  contentByGate : ∀ other,
    (answerKind limit headers body).passes other = (answerKind limit headers body).passes keep →
    contentWithin limit headers body other = contentWithin limit headers body keep
  /-- The same holds of the whole record of a submitted body. -/
  submittedByGate : ∀ other,
    (submittedKind headers body).passes other = (submittedKind headers body).passes keep →
    postData headers body other = postData headers body keep

/-- Text bodies go by the one flag and all others by the other; a body whose encoding cannot be
undone goes by either. -/
theorem bodies_are_gated (limit : Nat) (headers : Http.Headers) (body : Bytes) (keep : Keep) :
    Gated limit headers body keep := by
  constructor
  case content =>
    intro kept
    cases gate : (answerKind limit headers body).passes keep with
    | true => rfl
    | false =>
      rw [content_by_both, gate, content_without_flags] at kept
      cases kept
  case contentKept =>
    intro gate unkept
    have both := content_with_flags limit headers body
    rw [content_by_both, gate] at unkept
    rw [unkept] at both
    simpa using both
  case submitted =>
    rw [postData_by_both]
    cases (submittedKind headers body).passes keep with
    | true => rw [postData_with_flags]; simp
    | false => rw [postData_without_flags]; simp
  case contentByGate => exact fun other same => content_by_gate limit headers body same
  case submittedByGate => exact fun other same => postData_by_gate headers body same

/-- A body is kept only with the flag for its kind, whether its encoding can be undone or not. -/
def KeptByKind (keep : Keep) (textual kept : Bool) : Prop :=
  kept = true → (textual = true ∧ keep.text = true) ∨ (textual = false ∧ keep.binary = true)

/-- An image in an encoding that nobody knows is kept with the flag for text alone, in a response as
well as in a request. -/
theorem unknown_encoding_passes_either :
    let headers : Http.Headers := .ofList
      [("content-type", Bytes.ofText "image/png"), ("content-encoding", Bytes.ofText "br")]
    let body := Bytes.ofText "a=1"
    let keep : Keep := { text := true, binary := false }
    let textual := MediaType.isTextual (mimeTypeOf headers)
    let form := MediaType.isForm (mimeTypeOf headers)
    ¬ KeptByKind keep textual (content headers body keep).text.isSome ∧
      ¬ KeptByKind keep (textual || form) (postData headers body keep).isSome := by
  unfold KeptByKind
  decide +kernel

end Wirelog.BodyGates
