import Wirelog.Proofs.LimitCuts
import Wirelog.Proofs.TextFronts

/-! Texts that are longer than a limit. The limit counts octets and cuts before anything is known
of characters; the front is then decoded as if it were the whole body. A cut between two
characters leaves a front of the text with a note that it is one. A cut inside a character leaves
octets that are no text, and these are kept in Base64 under the remark that the body is not valid.
-/
namespace Wirelog.CutTexts
open Body LimitCuts RecoveredBodies

/-- A limit cuts a body: it has an encoding, and without it more octets than the limit allows. -/
def Cut (limit : Nat) (headers : Http.Headers) (body : Bytes) : Prop :=
  Packed (headers.text? "content-encoding") ∧ limit < body.size

/-- A text is kept as text, as far as the limit goes, and nothing but a cut is remarked. -/
structure StaysText (limit : Nat) (headers : Http.Headers) (body : Bytes) (text : String)
    (c : Archive.Content) : Prop where
  plain : c.encoding = none
  front : ∃ words, c.text = some words ∧ words.toList <+: text.toList
  unnoted : ¬Cut limit headers body → c.comment = none
  noted : Cut limit headers body → c.comment = some (cutNote limit)

/-- What the content of a response keeps of a text. -/
structure KeptText (limit : Nat) (headers : Http.Headers) (body : Bytes) (charset : Charset)
    (text : String) (c : Archive.Content) : Prop where
  /-- What is not cut is kept as the text that it is. -/
  uncut : ¬Cut limit headers body → c.text = some text ∧ c.encoding = none ∧ c.comment = none
  /-- A front that is text is kept as the front of the text, and noted to be one. -/
  front : Cut limit headers body → ∀ words, charset.decode (body.extract 0 limit) = some words →
    words.toList <+: text.toList ∧ c.text = some words ∧ c.encoding = none ∧
      c.comment = some (cutNote limit)
  /-- Any other front is kept in Base64, with a remark that it is not valid. -/
  broken : Cut limit headers body → charset.decode (body.extract 0 limit) = none →
    c.text = some (Text.Base64.encode (body.extract 0 limit)) ∧ c.encoding = some base64 ∧
      c.comment = some ((TextError.invalid charset.name).message ++ "; " ++ cutNote limit)
  /-- So a text stays text unless its front is broken. -/
  stays : StaysText limit headers body text c ↔
    (Cut limit headers body → ∃ words, charset.decode (body.extract 0 limit) = some words)
  /-- Less than a character before the limit there is a front that is text. -/
  nearby : ∃ k words, k ≤ limit ∧ limit < k + TextFronts.width charset.scheme ∧
    charset.decode (body.extract 0 k) = some words ∧ words.toList <+: text.toList
  /-- No front is broken if every character takes one octet. -/
  singles : TextFronts.width charset.scheme = 1 →
    ∃ words, charset.decode (body.extract 0 limit) = some words

section Contents
variable {limit larger : Nat} {headers : Http.Headers} {raw body : Bytes} {keep : Keep}
  {charset : Charset} {text : String}

theorem textOf_chosen (chosen : charsetOf (mimeTypeOf headers) = .ok charset) (octets : Bytes) :
    textOf (mimeTypeOf headers) octets =
      match charset.decode octets with
      | some words => .ok words
      | none => .error (.invalid charset.name) := by
  unfold textOf
  rw [chosen]
  rfl

/-- What is kept of a textual body that is wanted. -/
theorem keptOf_chosen (textual : MediaType.isTextual (mimeTypeOf headers) = true)
    (wanted : keep.text = true) (chosen : charsetOf (mimeTypeOf headers) = .ok charset)
    (octets : Bytes) :
    keptOf keep (mimeTypeOf headers) octets =
      match charset.decode octets with
      | some words => .text words
      | none => .illegible octets (.invalid charset.name) := by
  unfold keptOf
  rw [if_pos textual, if_pos wanted, textOf_chosen chosen]
  cases charset.decode octets <;> rfl

/-- Without a cut the limit leaves the body as it is. -/
theorem decompress_uncut
    (uncontested : ¬Contested (headers.text? "content-encoding") limit larger raw)
    (whole : decompress (headers.text? "content-encoding") raw larger = .ok ⟨body, false⟩)
    (uncut : ¬Cut limit headers body) :
    decompress (headers.text? "content-encoding") raw limit = .ok ⟨body, false⟩ := by
  by_cases packed : Packed (headers.text? "content-encoding")
  · have fits : body.size ≤ limit := Nat.le_of_not_lt fun beyond => uncut ⟨packed, beyond⟩
    rw [decompress_whole packed uncontested whole, upTo_fits fits]
  · exact (decompress_unpacked packed whole).1

/-- A cut leaves the front. -/
theorem decompress_cut
    (uncontested : ¬Contested (headers.text? "content-encoding") limit larger raw)
    (whole : decompress (headers.text? "content-encoding") raw larger = .ok ⟨body, false⟩)
    (cut : Cut limit headers body) :
    decompress (headers.text? "content-encoding") raw limit =
      .ok ⟨body.extract 0 limit, true⟩ := by
  rw [decompress_whole cut.1 uncontested whole]
  simp [upTo, cut.2]

/-- A text stays text under a limit, unless the limit lies inside a character. -/
theorem cut_texts_stay_texts (textual : MediaType.isTextual (mimeTypeOf headers) = true)
    (wanted : keep.text = true)
    (uncontested : ¬Contested (headers.text? "content-encoding") limit larger raw)
    (whole : decompress (headers.text? "content-encoding") raw larger = .ok ⟨body, false⟩)
    (chosen : charsetOf (mimeTypeOf headers) = .ok charset)
    (read : charset.decode body = some text) :
    KeptText limit headers body charset text (contentWithin limit headers raw keep) := by
  have kept := keptOf_chosen textual wanted chosen
  have uncut (uncut : ¬Cut limit headers body) :
      let c := contentWithin limit headers raw keep
      c.text = some text ∧ c.encoding = none ∧ c.comment = none := by
    rw [content_decoded (decompress_uncut uncontested whole uncut), kept, read]
    exact ⟨rfl, rfl, rfl⟩
  have front (cut : Cut limit headers body) (words : String)
      (readable : charset.decode (body.extract 0 limit) = some words) :
      let c := contentWithin limit headers raw keep
      words.toList <+: text.toList ∧ c.text = some words ∧ c.encoding = none ∧
        c.comment = some (cutNote limit) := by
    refine ⟨TextFronts.front_is_prefix charset read limit readable, ?_⟩
    rw [content_decoded (decompress_cut uncontested whole cut), kept, readable]
    exact ⟨rfl, rfl, rfl⟩
  have broken (cut : Cut limit headers body)
      (broken : charset.decode (body.extract 0 limit) = none) :
      let c := contentWithin limit headers raw keep
      c.text = some (Text.Base64.encode (body.extract 0 limit)) ∧ c.encoding = some base64 ∧
        c.comment =
          some ((TextError.invalid charset.name).message ++ "; " ++ cutNote limit) := by
    rw [content_decoded (decompress_cut uncontested whole cut), kept, broken]
    exact ⟨rfl, rfl, rfl⟩
  obtain ⟨k, words, before, near, readable, start⟩ := TextFronts.text_nearby charset read limit
  refine ⟨uncut, front, broken, ?stays, ⟨k, words, before, near, readable, start⟩, ?singles⟩
  case stays =>
    constructor
    · intro stays cut
      cases readable : charset.decode (body.extract 0 limit) with
      | some words => exact ⟨words, rfl⟩
      | none => cases (broken cut readable).2.1.symm.trans stays.plain
    · intro readable
      by_cases cut : Cut limit headers body
      · obtain ⟨words, readable⟩ := readable cut
        obtain ⟨start, written, plain, noted⟩ := front cut words readable
        exact ⟨plain, ⟨words, written, start⟩, (absurd cut ·), fun _ => noted⟩
      · obtain ⟨written, plain, unnoted⟩ := uncut cut
        exact ⟨plain, ⟨text, written, List.prefix_rfl⟩, fun _ => unnoted, (absurd · cut)⟩
  case singles =>
    intro single
    obtain rfl : k = limit := by omega
    exact ⟨words, readable⟩

end Contents

/-! A text of two characters in three octets, and a limit of two. -/

/-- The headers of a text with an encoding. -/
def packedText : Http.Headers :=
  .ofList [("content-type", Bytes.ofText "text/plain; charset=utf-8"),
    ("content-encoding", Bytes.ofText "deflate")]

/-- The text in one stored block. -/
def storedText : Bytes :=
  Bytes.ofOctets [0x01, 0x03, 0x00, 0xFC, 0xFF, 0x61, 0xC3, 0xA9]

/-- The flags that keep text. -/
def textOnly : Keep :=
  { text := true, binary := false }

theorem storedText_whole :
    decompress (packedText.text? "content-encoding") storedText 3 =
      .ok ⟨Bytes.ofText "aé", false⟩ := by
  rfl

theorem storedText_kept :
    KeptText 2 packedText (Bytes.ofText "aé") .utf8 "aé"
      (contentWithin 2 packedText storedText textOnly) := by
  refine cut_texts_stay_texts (by decide +kernel) rfl ?uncontested storedText_whole rfl rfl
  intro contested
  exact absurd contested.beyond (by decide)

/-- The front is recorded as invalid, though the text is valid. -/
theorem divided_character_is_no_text :
    decompress (packedText.text? "content-encoding") storedText 3 =
        .ok ⟨Bytes.ofText "aé", false⟩ ∧
      textOf (mimeTypeOf packedText) (Bytes.ofText "aé") = .ok "aé" ∧
      ¬StaysText 2 packedText (Bytes.ofText "aé") "aé"
        (contentWithin 2 packedText storedText textOnly) := by
  refine ⟨storedText_whole, rfl, fun stays => ?_⟩
  have encoded : (contentWithin 2 packedText storedText textOnly).encoding = some base64 := by
    decide +kernel
  cases encoded.symm.trans stays.plain

end Wirelog.CutTexts
