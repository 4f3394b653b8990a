import Wirelog.Proofs.BodyGates

/-! What can be read off the content of a response about its body. A content is made in several
ways: the encoding of the body cannot be undone, or it is undone, in full or up to the limit; then
the body is left out, kept as text, or kept in Base64. In all of them, what is kept decides about
text, encoding and remark at once, and the size is that of the octets that are kept. So the body,
its length, and whether anything went wrong can be told from the content alone. -/
namespace Wirelog.RecoveredBodies
open Body hiding sizeOf
open BodyGates

/-! ## What is kept -/

/-- What is kept of a body. -/
inductive Kept where
  /-- Nothing. -/
  | nothing
  /-- Its text. -/
  | text (words : String)
  /-- Its octets. -/
  | octets (body : Bytes)
  /-- Its octets, because they are not the text that they should be. -/
  | illegible (body : Bytes) (e : TextError)

/-- The text that it is kept in. -/
def Kept.text? : Kept → Option String
  | nothing => none
  | text words => some words
  | octets body | illegible body _ => some (Text.Base64.encode body)

/-- How this text is to be decoded. -/
def Kept.encoding? : Kept → Option String
  | nothing | text _ => none
  | octets _ | illegible _ _ => some base64

/-- What is remarked about it. -/
def Kept.remark? : Kept → Option String
  | illegible _ e => some e.message
  | _ => none

/-- What flags keep of a body whose encoding cannot be undone. -/
def keptRaw (keep : Keep) (raw : Bytes) : Kept :=
  if keep.any then .octets raw else .nothing

/-- What flags keep of a body of a type. -/
def keptOf (keep : Keep) (mimeType : String) (body : Bytes) : Kept :=
  if MediaType.isTextual mimeType then
    if keep.text then
      match textOf mimeType body with
      | .ok words => .text words
      | .error e => .illegible body e
    else .nothing
  else if keep.binary && !body.isEmpty then .octets body
  else .nothing

/-- Something that is kept of this body of a type: what is text was read, and the octets are all
there. -/
inductive Faithful (mimeType : String) (body : Bytes) : Kept → Prop where
  | nothing : Faithful mimeType body .nothing
  | text {words : String} (read : textOf mimeType body = .ok words) :
      Faithful mimeType body (.text words)
  | octets : Faithful mimeType body (.octets body)
  | illegible {e : TextError} (unread : textOf mimeType body = .error e) :
      Faithful mimeType body (.illegible body e)

theorem faithful_keptOf (keep : Keep) (mimeType : String) (body : Bytes) :
    Faithful mimeType body (keptOf keep mimeType body) := by
  unfold keptOf
  split
  · split
    · cases read : textOf mimeType body with
      | ok words => exact .text read
      | error e => exact .illegible read
    · exact .nothing
  · split
    · exact .octets
    · exact .nothing

theorem faithful_keptRaw (keep : Keep) (mimeType : String) (raw : Bytes) :
    Faithful mimeType raw (keptRaw keep raw) := by
  unfold keptRaw
  split
  · exact .octets
  · exact .nothing

/-- Without Base64 nothing is kept of it. -/
theorem text_keptRaw {keep : Keep} {raw : Bytes} (plain : (keptRaw keep raw).encoding? = none) :
    (keptRaw keep raw).text? = none := by
  unfold keptRaw at plain ⊢
  split at plain
  · cases plain
  · rw [if_neg ‹_›]
    rfl

section Laws
variable {mimeType : String} {body : Bytes} {kept : Kept}

/-- What is kept in Base64 stands for all octets. -/
theorem octets_of_base64 (faithful : Faithful mimeType body kept)
    (encoded : kept.encoding? = some base64) :
    ∃ text, kept.text? = some text ∧ Text.Base64.decode text = some body := by
  cases faithful with
  | nothing => cases encoded
  | text read => cases encoded
  | octets => exact ⟨_, rfl, Text.Base64.decode_encode body⟩
  | illegible unread => exact ⟨_, rfl, Text.Base64.decode_encode body⟩

/-- What is kept without it is what the octets say. -/
theorem text_of_plain (faithful : Faithful mimeType body kept) {words : String}
    (written : kept.text? = some words) (plain : kept.encoding? = none) :
    textOf mimeType body = .ok words := by
  cases faithful with
  | nothing => cases written
  | text read =>
    cases written
    exact read
  | octets => cases plain
  | illegible unread => cases plain

theorem encoding_cases (kept : Kept) : kept.encoding? = none ∨ kept.encoding? = some base64 := by
  cases kept with
  | nothing => exact .inl rfl
  | text words => exact .inl rfl
  | octets body => exact .inr rfl
  | illegible body e => exact .inr rfl

end Laws

/-- With both flags set, only of an empty body nothing is kept. -/
theorem empty_keptOf {keep : Keep} (mimeType : String) (body : Bytes) (text : keep.text = true)
    (binary : keep.binary = true) (missing : (keptOf keep mimeType body).text? = none) :
    body.isEmpty = true := by
  unfold keptOf at missing
  rw [text, binary] at missing
  split at missing
  · cases read : textOf mimeType body with
    | ok words =>
      rw [if_pos rfl, read] at missing
      cases missing
    | error e =>
      rw [if_pos rfl, read] at missing
      cases missing
  · cases empty : body.isEmpty with
    | true => rfl
    | false =>
      rw [empty, Bool.not_false, Bool.and_self, if_pos rfl] at missing
      cases missing

/-- There is a remark just if a text was wanted and could not be read. -/
theorem remark_keptOf (keep : Keep) (mimeType : String) (body : Bytes) :
    (keptOf keep mimeType body).remark? = none ↔
      (MediaType.isTextual mimeType = true → keep.text = true →
        ∃ words, textOf mimeType body = .ok words) := by
  unfold keptOf
  cases MediaType.isTextual mimeType with
  | false =>
    refine iff_of_true ?_ nofun
    cases keep.binary && !body.isEmpty <;> rfl
  | true =>
    cases keep.text with
    | false => exact iff_of_true rfl nofun
    | true =>
      cases textOf mimeType body with
      | ok words => exact iff_of_true rfl fun _ _ => ⟨words, rfl⟩
      | error e =>
        refine iff_of_false nofun fun readable => ?_
        obtain ⟨words, read⟩ := readable rfl rfl
        cases read

/-! ## The contents -/

variable {limit : Nat} {headers : Http.Headers} {raw : Bytes} {keep : Keep}

/-- The content of a response whose encoding cannot be undone. -/
theorem content_undecoded {e : CodingError}
    (failed : decompress (headers.text? "content-encoding") raw limit = .error e) :
    contentWithin limit headers raw keep =
      { size := Body.sizeOf raw
        mimeType := mimeTypeOf headers
        text := (keptRaw keep raw).text?
        encoding := (keptRaw keep raw).encoding?
        comment := some e.message } := by
  simp only [contentWithin, failed, keptRaw]
  cases keep.any <;> rfl

/-- Behind a cut there always is a remark. -/
theorem addRemark_some (earlier : Option String) (remark : String) :
    ∃ remarks, addRemark earlier remark = some remarks := by
  cases earlier with
  | none => exact ⟨_, rfl⟩
  | some text => exact ⟨_, rfl⟩

/-- What is recorded as saved by an encoding. -/
def saved? (raw : Bytes) (plain : Plain) : Option Int64 :=
  if plain.bytes.size != raw.size && !plain.truncated then
    some (Body.sizeOf plain.bytes - Body.sizeOf raw)
  else none

/-- The content of a response whose encoding is undone. -/
theorem content_decoded {plain : Plain}
    (decoded : decompress (headers.text? "content-encoding") raw limit = .ok plain) :
    let kept := keptOf keep (mimeTypeOf headers) plain.bytes
    contentWithin limit headers raw keep =
      { size := Body.sizeOf plain.bytes
        compression := saved? raw plain
        mimeType := mimeTypeOf headers
        text := kept.text?
        encoding := kept.encoding?
        comment :=
          if plain.truncated then addRemark kept.remark? (cutNote limit) else kept.remark? } := by
  simp only [contentWithin, decoded, keptOf]
  -- A cut adds a remark to whatever is kept.
  obtain ⟨bytes, truncated⟩ := plain
  dsimp only
  cases MediaType.isTextual (mimeTypeOf headers) with
  | true =>
    cases keep.text with
    | true => cases textOf (mimeTypeOf headers) bytes <;> cases truncated <;> rfl
    | false => cases truncated <;> rfl
  | false => cases keep.binary && !bytes.isEmpty <;> cases truncated <;> rfl

/-! ## Sizes -/

theorem within_bounded {d : Flate.Decoded} {plain : Plain} (cut : within limit d = .ok plain) :
    plain.bytes.size ≤ limit := by
  unfold within at cut
  split at cut
  · cases cut
    rw [ByteArray.size_extract]
    omega
  · rename_i fits
    split at cut
    · cases cut
    · cases cut
      exact Nat.le_of_not_lt fits

theorem undeflate_bounded {plain : Plain} (undone : undeflate limit raw = .ok plain) :
    plain.bytes.size ≤ limit := by
  unfold undeflate at undone
  split at undone
  · rename_i first
    cases undone
    exact within_bounded first
  · exact within_bounded undone

theorem ok_of_mapError {ε δ α : Type} {f : ε → δ} {x : Except ε α} {a : α}
    (mapped : x.mapError f = .ok a) : x = .ok a := by
  cases x with
  | error e => cases mapped
  | ok b =>
    cases mapped
    rfl

/-- Undoing an encoding gives no more octets than the limit allows. -/
theorem decompress_bounded {encoding : Option String} {plain : Plain}
    (decoded : decompress encoding raw limit = .ok plain) :
    plain.bytes = raw ∨ plain.bytes.size ≤ limit := by
  unfold decompress at decoded
  split at decoded
  case h_1 | h_2 | h_3 =>
    cases decoded
    exact .inl rfl
  case h_4 | h_5 => exact .inr (within_bounded (ok_of_mapError decoded))
  case h_6 => exact .inr (undeflate_bounded (ok_of_mapError decoded))
  case h_7 => cases decoded

/-- A body whose size is a number that archives can write. No machine holds another one. -/
def Fits (b : Bytes) : Prop :=
  (b.size : Int) ≤ Int64.maxValue.toInt

theorem size_of_fits {b : Bytes} (fits : Fits b) : b.size ≤ 9223372036854775807 := by
  have top : Int64.maxValue.toInt = 9223372036854775807 := by decide
  unfold Fits at fits
  omega

/-- A size is written as the number that it is. -/
theorem toInt_sizeOf {b : Bytes} (fits : Fits b) : (Body.sizeOf b).toInt = b.size := by
  have size := size_of_fits fits
  apply Int64.toInt_ofNat_of_lt
  omega

/-- So is the difference of two sizes. -/
theorem toInt_saved {a b : Bytes} (fitsA : Fits a) (fitsB : Fits b) :
    (Body.sizeOf a - Body.sizeOf b).toInt = a.size - b.size := by
  have sizeA := size_of_fits fitsA
  have sizeB := size_of_fits fitsB
  rw [Int64.toInt_sub, toInt_sizeOf fitsA, toInt_sizeOf fitsB]
  apply Int.bmod_eq_of_le <;> omega

/-- Of a whole body it is recorded what was saved, unless this is nothing. -/
theorem saved_whole {plain : Plain} (whole : plain.truncated = false) :
    saved? raw plain =
      if plain.bytes.size = raw.size then none
      else some (Body.sizeOf plain.bytes - Body.sizeOf raw) := by
  unfold saved?
  by_cases same : plain.bytes.size = raw.size
  · simp [same]
  · simp [same, whole]

/-- The size of a whole body without what was saved is the size of the body as it came. -/
theorem size_saved {plain : Plain} (whole : plain.truncated = false) :
    Body.sizeOf plain.bytes - (saved? raw plain).getD 0 = Body.sizeOf raw := by
  rw [saved_whole whole]
  split
  · rename_i same
    rw [Option.getD_none, Int64.sub_zero, Body.sizeOf, same]
    rfl
  · -- This holds of all numbers of this width, whatever the sizes are.
    rw [Option.getD_some]
    grind

/-- In numbers, too. -/
theorem number_saved {plain : Plain} (whole : plain.truncated = false)
    (fits : Fits raw) (fitsPlain : Fits plain.bytes) :
    (Body.sizeOf plain.bytes).toInt - ((saved? raw plain).getD 0).toInt = raw.size := by
  rw [saved_whole whole, toInt_sizeOf fitsPlain]
  split
  · rename_i same
    simp [same]
  · rw [Option.getD_some, toInt_saved fitsPlain fits]
    omega

/-! ## What contents tell -/

/-- The octets that a content is about: the body with its encoding undone up to the limit, or as it
came if this is impossible. -/
def bodyOf (limit : Nat) (headers : Http.Headers) (raw : Bytes) : Bytes :=
  (undone? limit headers raw).getD raw

/-- The limit does not cut the body. -/
def Uncut (limit : Nat) (headers : Http.Headers) (raw : Bytes) : Prop :=
  ∀ plain, decompress (headers.text? "content-encoding") raw limit = .ok plain →
    plain.truncated = false

/-- The encoding of a body is undone without a cut, and if its text is wanted it can be read. -/
def Unharmed (limit : Nat) (headers : Http.Headers) (raw : Bytes) (keep : Keep) : Prop :=
  ∃ plain, decompress (headers.text? "content-encoding") raw limit = .ok plain ∧
    plain.truncated = false ∧
      (MediaType.isTextual (mimeTypeOf headers) = true → keep.text = true →
        ∃ words, textOf (mimeTypeOf headers) plain.bytes = .ok words)

/-- What the content of a response tells of its body. -/
structure Accounted (limit : Nat) (headers : Http.Headers) (raw : Bytes) (keep : Keep)
    (c : Archive.Content) : Prop where
  /-- The size is that of the octets that it is about. -/
  size : c.size = Body.sizeOf (bodyOf limit headers raw)
  /-- Where an encoding was undone there are no more of them than the limit allows. -/
  bounded : bodyOf limit headers raw = raw ∨ (bodyOf limit headers raw).size ≤ limit
  /-- Base64 is the only encoding of a text. -/
  encoding : c.encoding = none ∨ c.encoding = some base64
  /-- A text in Base64 gives exactly these octets. -/
  octets : c.encoding = some base64 →
    ∃ text, c.text = some text ∧ Text.Base64.decode text = some (bodyOf limit headers raw)
  /-- Any other text is what the body says in its charset once its encoding is undone. -/
  text : ∀ words, c.text = some words → c.encoding = none →
    ∃ plain, decompress (headers.text? "content-encoding") raw limit = .ok plain ∧
      textOf (mimeTypeOf headers) plain.bytes = .ok words
  /-- With both flags set, nothing but an empty body is left out. -/
  complete : keep.text = true → keep.binary = true → c.text = none →
    (bodyOf limit headers raw).isEmpty = true
  /-- What the encoding saved is the difference to the size of the body as it came. -/
  saved : Uncut limit headers raw → c.size - c.compression.getD 0 = Body.sizeOf raw
  /-- All these sizes are the numbers that they are. -/
  numbers : Fits raw → Fits (bodyOf limit headers raw) →
    c.size.toInt = (bodyOf limit headers raw).size ∧
      (Uncut limit headers raw → c.size.toInt - (c.compression.getD 0).toInt = raw.size)
  /-- There is a comment just if something went wrong. -/
  comment : c.comment = none ↔ Unharmed limit headers raw keep

theorem accounted_undecoded {e : CodingError}
    (failed : decompress (headers.text? "content-encoding") raw limit = .error e) :
    Accounted limit headers raw keep (contentWithin limit headers raw keep) := by
  have body : bodyOf limit headers raw = raw := by
    rw [bodyOf, undone?, failed]
    rfl
  have faithful := faithful_keptRaw keep (mimeTypeOf headers) raw
  rw [content_undecoded failed]
  constructor
  case size => rw [body]
  case bounded => exact .inl body
  case encoding => exact encoding_cases _
  case octets =>
    rw [body]
    exact octets_of_base64 faithful
  case text =>
    intro words written plain
    cases written.symm.trans (text_keptRaw plain)
  case complete =>
    intro text binary missing
    have any : keep.any = true := by rw [Keep.any, text, binary, Bool.or_self]
    rw [keptRaw, if_pos any] at missing
    cases missing
  case saved => exact fun _ => Int64.sub_zero _
  case numbers =>
    intro fits _
    rw [body]
    exact ⟨toInt_sizeOf fits, fun _ => by simp [toInt_sizeOf fits]⟩
  case comment =>
    constructor
    · intro absent
      cases absent
    · rintro ⟨plain, decoded, -⟩
      cases failed.symm.trans decoded

theorem accounted_decoded {plain : Plain}
    (decoded : decompress (headers.text? "content-encoding") raw limit = .ok plain) :
    Accounted limit headers raw keep (contentWithin limit headers raw keep) := by
  have body : bodyOf limit headers raw = plain.bytes := by
    rw [bodyOf, undone?, decoded]
    rfl
  have faithful := faithful_keptOf keep (mimeTypeOf headers) plain.bytes
  have remark := remark_keptOf keep (mimeTypeOf headers) plain.bytes
  have complete (text : keep.text = true) (binary : keep.binary = true) :=
    empty_keptOf (mimeTypeOf headers) plain.bytes text binary
  rw [content_decoded decoded]
  generalize keptOf keep (mimeTypeOf headers) plain.bytes = kept at faithful remark complete ⊢
  constructor
  case size => rw [body]
  case bounded =>
    rw [body]
    exact decompress_bounded decoded
  case encoding => exact encoding_cases kept
  case octets =>
    rw [body]
    exact octets_of_base64 faithful
  case text =>
    intro words written unencoded
    exact ⟨plain, decoded, text_of_plain faithful written unencoded⟩
  case complete =>
    rw [body]
    exact complete
  case saved => exact fun uncut => size_saved (uncut plain decoded)
  case numbers =>
    intro fits fitsPlain
    rw [body] at fitsPlain ⊢
    exact ⟨toInt_sizeOf fitsPlain, fun uncut => number_saved (uncut plain decoded) fits fitsPlain⟩
  case comment =>
    have unharmed : Unharmed limit headers raw keep ↔
        plain.truncated = false ∧ kept.remark? = none := by
      rw [remark]
      constructor
      · rintro ⟨other, again, whole, readable⟩
        cases decoded.symm.trans again
        exact ⟨whole, readable⟩
      · rintro ⟨whole, readable⟩
        exact ⟨plain, decoded, whole, readable⟩
    rw [unharmed]
    cases plain.truncated with
    | true =>
      obtain ⟨remarks, remarked⟩ := addRemark_some kept.remark? (cutNote limit)
      simp [remarked]
    | false => simp

/-- The content of a response tells the body that it is about, the size that this had before and
after its encoding was undone, and whether anything of it is lost. -/
theorem contents_account_for_bodies (limit : Nat) (headers : Http.Headers) (raw : Bytes) (keep : Keep) :
    Accounted limit headers raw keep (contentWithin limit headers raw keep) := by
  cases undone : decompress (headers.text? "content-encoding") raw limit with
  | error e => exact accounted_undecoded undone
  | ok plain => exact accounted_decoded undone

end Wirelog.RecoveredBodies
