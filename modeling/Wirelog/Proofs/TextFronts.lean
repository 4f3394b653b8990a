import Wirelog.Body.Text
import Wirelog.Proofs.TextPieces

/-! The fronts of texts. A body that is cut at a limit is cut between two octets, wherever the
ends of its characters are. Every charset is read in pieces of at most four octets, so the front
that is left either ends with one of them and is a front of the text, or it is no text. -/
namespace Wirelog.TextFronts
open Charset TextPieces

/-! ## The charsets -/

/-- Pairs and single octets. -/
theorem piecewise_pairs (single : UInt8 → Option Char) (isLead : UInt8 → Bool)
    (pair : Nat → Nat → Option (List Char)) :
    Piecewise 2 (backwards (decodePairs single isLead pair)) where
  finished := fun _ => rfl
  begins := by
    intro back a rest text read
    change decodePairs single isLead pair back (a :: rest) = some text at read
    rw [decodePairs.eq_def] at read
    cases lead : isLead a with
    | false =>
      cases found : single a with
      | none => simp [lead, found] at read
      | some c =>
        apply begins_one (c :: back) (by omega) _ (prefix_push back c)
        intro rest
        rw [decodePairs.eq_def]
        simp [lead, found]
    | true =>
      cases rest with
      | nil => simp [lead] at read
      | cons b rest =>
        cases found : pair a.toNat b.toNat with
        | none => simp [lead, found] at read
        | some cs =>
          apply begins_two (cs.reverse ++ back) (Nat.le_refl 2)
          · intro rest
            rw [decodePairs.eq_def]
            simp [lead, found]
          · exact ⟨cs, by simp⟩
          · simp [decodePairs, lead]

/-- Octets that are read by themselves, all by one table. -/
theorem piecewise_table (char? : UInt8 → Option Char) :
    Piecewise 1 ⟨fun before s => (s.mapM char?).map (before ++ ·), id⟩ where
  finished := fun before => by simp
  begins := by
    intro before a rest text read
    simp only [List.mapM_cons] at read
    cases found : char? a with
    | none => simp [found] at read
    | some c =>
      apply begins_one (before ++ [c]) (Nat.le_refl 1) _ ⟨[c], rfl⟩
      intro rest
      cases tail : rest.mapM char? <;> simp [List.mapM_cons, found, tail]

section EucJp
variable (basic supplement : Nat → Option Char) (back : List Char)

/-- All that EUC-JP does with an octet that is not the shift to the second table. -/
theorem eucJp_unshifted {a : UInt8} (unshifted : a ≠ 0x8F) (rest : List UInt8) :
    EucJp.read basic supplement back (a :: rest) =
      if a < 0x80 then EucJp.read basic supplement (Char.ofNat a.toNat :: back) rest
      else
        match rest with
        | [] => none
        | b :: rest =>
          match EucJp.pair? basic a b with
          | some c => EucJp.read basic supplement (c :: back) rest
          | none => none := by
  rw [EucJp.read.eq_def]
  split
  · contradiction
  · rename_i same
    exact absurd (List.cons.inj same).1 unshifted
  · rename_i same
    obtain ⟨rfl, rfl⟩ := List.cons.inj same
    rfl

theorem piecewise_eucJp : Piecewise 3 (backwards (EucJp.read basic supplement)) where
  finished := fun _ => by simp [EucJp.read]
  begins := by
    intro back a rest text read
    change EucJp.read basic supplement back (a :: rest) = some text at read
    by_cases shifted : a = 0x8F
    · -- Behind the shift two octets are a cell of the second table.
      subst shifted
      match rest with
      | [] => cases read
      | [_] => cases read
      | b :: c :: rest =>
        rw [EucJp.read] at read
        by_cases plane : (inPlane b && inPlane c) = true
        · cases found : supplement (planeCell b c) with
          | none => simp [found] at read
          | some ch =>
            apply begins_three (ch :: back) (Nat.le_refl 3) _ (prefix_push back ch) rfl rfl
            intro rest
            rw [EucJp.read, if_pos plane, found]
        · rw [if_neg plane] at read
          cases read
    · rw [eucJp_unshifted basic supplement back shifted] at read
      by_cases ascii : a < 0x80
      · apply begins_one (Char.ofNat a.toNat :: back) (by omega) _ (prefix_push back _)
        intro rest
        rw [eucJp_unshifted basic supplement back shifted, if_pos ascii]
      · rw [if_neg ascii] at read
        cases rest with
        | nil => cases read
        | cons b rest =>
          cases found : EucJp.pair? basic a b with
          | none => simp [found] at read
          | some c =>
            apply begins_two (c :: back) (by omega) _ (prefix_push back c)
            · rw [eucJp_unshifted basic supplement back shifted, if_neg ascii]
            · intro rest
              rw [eucJp_unshifted basic supplement back shifted, if_neg ascii]
              simp only [found]

end EucJp

section Guobiao
variable (pair four : Nat → Option Char)

theorem piecewise_guobiao : Piecewise 4 (backwards (Guobiao.read pair four)) where
  finished := fun _ => by simp [Guobiao.read]
  begins := by
    intro back a rest text read
    change Guobiao.read pair four back (a :: rest) = some text at read
    by_cases ascii : a < 0x80
    · apply begins_one (Char.ofNat a.toNat :: back) (by omega) _ (prefix_push back _)
      intro rest
      rw [Guobiao.read.eq_def]
      simp only [ascii, if_true]
    by_cases euro : a = 0x80
    · apply begins_one ('€' :: back) (by omega) _ (prefix_push back _)
      intro rest
      rw [Guobiao.read.eq_def]
      simp only [euro]
      rfl
    by_cases last : a = 0xFF
    · rw [Guobiao.read.eq_def, last] at read
      cases read
    have alone : Guobiao.read pair four back [a] = none := by
      rw [Guobiao.read.eq_def]
      simp only [ascii, euro, last, if_false]
    cases rest with
    | nil => cases alone.symm.trans read
    | cons b rest =>
      by_cases digit : 0x30 ≤ b ∧ b ≤ 0x39
      · have short (s : List UInt8) (short : s.length < 2) :
            Guobiao.read pair four back (a :: b :: s) = none := by
          rw [Guobiao.read.eq_def]
          match s with
          | [] => simp [ascii, euro, last, digit]
          | [c] => simp [ascii, euro, last, digit]
        match rest with
        | [] => cases (short [] (by simp)).symm.trans read
        | [c] => cases (short [c] (by simp)).symm.trans read
        | c :: e :: rest =>
          rw [Guobiao.read.eq_def] at read
          simp only [ascii, euro, last, digit, if_false] at read
          by_cases within : 0x81 ≤ c ∧ c ≤ 0xFE ∧ 0x30 ≤ e ∧ e ≤ 0x39
          · cases found : four ((((a.toNat - 0x81) * 10 + (b.toNat - 0x30)) * 126 +
                (c.toNat - 0x81)) * 10 + (e.toNat - 0x30)) with
            | none => simp [within, found] at read
            | some ch =>
              apply begins_four (ch :: back) (Nat.le_refl 4) _ (prefix_push back ch) alone
                (short [] (by simp)) (short [c] (by simp))
              intro rest
              rw [Guobiao.read.eq_def]
              simp only [ascii, euro, last, digit, within, found, and_self, if_true, if_false]
          · simp [within] at read
      · rw [Guobiao.read.eq_def] at read
        simp only [ascii, euro, last, digit, if_false] at read
        by_cases within : (0x40 ≤ b ∧ b ≤ 0x7E) ∨ (0x80 ≤ b ∧ b ≤ 0xFE)
        · cases found : pair ((a.toNat - 0x81) * 190 +
              (b.toNat - if b < 0x7F then 0x40 else 0x41)) with
          | none => simp [within, found] at read
          | some ch =>
            apply begins_two (ch :: back) (by omega) _ (prefix_push back ch) alone
            intro rest
            rw [Guobiao.read.eq_def]
            simp only [ascii, euro, last, digit, within, found, if_true, if_false]
        · simp [within] at read

end Guobiao

section Iso2022Jp
variable (kanji : Nat → Option Char) (plane : Iso2022Jp.Plane) (switched : Bool) (back : List Char)

/-- All that ISO-2022-JP does with an octet that is not the escape. -/
theorem iso2022Jp_unescaped {a : UInt8} (unescaped : a ≠ 0x1B) (rest : List UInt8) :
    Iso2022Jp.read kanji plane switched back (a :: rest) =
      if plane = .kanji then
        match rest with
        | b :: rest =>
          if 0x21 ≤ a ∧ a ≤ 0x7E ∧ 0x21 ≤ b ∧ b ≤ 0x7E then
            match kanji ((a.toNat - 0x21) * 94 + (b.toNat - 0x21)) with
            | some c => Iso2022Jp.read kanji plane false (c :: back) rest
            | none => none
          else none
        | [] => none
      else
        match Iso2022Jp.single? plane a with
        | some c => Iso2022Jp.read kanji plane false (c :: back) rest
        | none => none := by
  rw [Iso2022Jp.read.eq_def]
  split
  · contradiction
  · rename_i same
    exact absurd (List.cons.inj same).1 unescaped
  · rename_i same
    obtain ⟨rfl, rfl⟩ := List.cons.inj same
    exact if_neg unescaped

/-- ISO-2022-JP, with the set of characters and whether it was just chosen. -/
abbrev iso2022Jp : Decoder (Iso2022Jp.Plane × Bool × List Char) :=
  ⟨fun (plane, switched, back) => Iso2022Jp.read kanji plane switched back,
    fun (_, _, back) => back.reverse⟩

theorem piecewise_iso2022Jp : Piecewise 3 (iso2022Jp kanji) where
  finished := fun _ => by simp [Iso2022Jp.read]
  begins := by
    rintro ⟨plane, switched, back⟩ a rest text read
    change Iso2022Jp.read kanji plane switched back (a :: rest) = some text at read
    by_cases escaped : a = 0x1B
    · subst escaped
      match rest with
      | [] => cases read
      | [_] => cases read
      | b :: c :: rest =>
        rw [Iso2022Jp.read] at read
        cases found : Iso2022Jp.chosen? b c with
        | none => simp [found] at read
        | some other =>
          cases switched with
          | true => simp [found] at read
          | false =>
            apply begins_three (other, true, back) (Nat.le_refl 3)
            · intro rest
              simp only [Iso2022Jp.read, found, Bool.false_eq_true, if_false]
            · exact List.prefix_rfl
            · rfl
            · rfl
    · rw [iso2022Jp_unescaped kanji plane switched back escaped] at read
      by_cases pairs : plane = .kanji
      · rw [if_pos pairs] at read
        cases rest with
        | nil => cases read
        | cons b rest =>
          by_cases within : 0x21 ≤ a ∧ a ≤ 0x7E ∧ 0x21 ≤ b ∧ b ≤ 0x7E
          · cases found : kanji ((a.toNat - 0x21) * 94 + (b.toNat - 0x21)) with
            | none => simp [within, found] at read
            | some c =>
              apply begins_two (plane, false, c :: back) (by omega) _
                (prefix_push back c)
              · simp only [iso2022Jp_unescaped kanji plane switched back escaped, if_pos pairs]
              · intro rest
                simp only [iso2022Jp_unescaped kanji plane switched back escaped, if_pos pairs,
                  if_pos within, found]
          · simp [within] at read
      · rw [if_neg pairs] at read
        cases found : Iso2022Jp.single? plane a with
        | none => simp [found] at read
        | some c =>
          apply begins_one (plane, false, c :: back) (by omega) _ (prefix_push back c)
          intro rest
          simp only [iso2022Jp_unescaped kanji plane switched back escaped, if_neg pairs, found]

end Iso2022Jp

section Utf16
variable (bigEndian : Bool)

/-- Units are read one after the other, whatever was read before. -/
theorem units_back (back : List Nat) :
    ∀ s, units bigEndian back s = (units bigEndian [] s).map (back.reverse ++ ·)
  | [] => by simp [units]
  | [_] => by simp [units]
  | a :: b :: rest => by
    rw [units, units, units_back _ rest, units_back [_] rest, Option.map_map]
    congr 1
    funext others
    simp

/-- The unit of two octets. -/
def unitOf (a b : UInt8) : Nat :=
  if bigEndian then a.toNat * 256 + b.toNat else b.toNat * 256 + a.toNat

theorem units_pair (a b : UInt8) (rest : List UInt8) :
    units bigEndian [] (a :: b :: rest) =
      (units bigEndian [] rest).map (unitOf bigEndian a b :: ·) := by
  rw [units, units_back]
  rfl

/-- A unit that leads no pair is a character, or it stands alone where only the second of a pair
may stand. -/
theorem ofUnits_unpaired {u : Nat} (unpaired : ¬(0xD800 ≤ u ∧ u ≤ 0xDBFF)) (back : List Char)
    (rest : List Nat) :
    ofUnits back (u :: rest) =
      if 0xDC00 ≤ u ∧ u ≤ 0xDFFF then none else ofUnits (Char.ofNat u :: back) rest := by
  rw [ofUnits.eq_def]
  simp only [unpaired, if_false]

/-- UTF-16. -/
abbrev utf16 : Decoder (List Char) :=
  backwards fun back s => (units bigEndian [] s).bind (ofUnits back)

theorem piecewise_utf16 : Piecewise 4 (utf16 bigEndian) where
  finished := fun _ => rfl
  begins := by
    intro back a rest text read
    change (units bigEndian [] (a :: rest)).bind (ofUnits back) = some text at read
    cases rest with
    | nil => cases read
    | cons b rest =>
      rw [units_pair] at read
      generalize unit : unitOf bigEndian a b = u at read
      by_cases lead : 0xD800 ≤ u ∧ u ≤ 0xDBFF
      · have alone : (units bigEndian [] [a, b]).bind (ofUnits back) = none := by
          rw [units_pair, unit]
          simp [units, ofUnits, lead]
        match rest with
        | [] => simp [units, ofUnits, lead] at read
        | [_] => simp [units] at read
        | c :: e :: rest =>
          rw [units_pair] at read
          generalize trail : unitOf bigEndian c e = v at read
          by_cases low : 0xDC00 ≤ v ∧ v ≤ 0xDFFF
          · let ch := Char.ofNat (0x10000 + (u - 0xD800) * 1024 + (v - 0xDC00))
            apply begins_four (ch :: back) (Nat.le_refl 4) _ (prefix_push back ch) rfl alone rfl
            intro rest
            rw [units_pair, units_pair, unit, trail, Option.map_map, Option.bind_map]
            congr 1
            funext others
            simp [ofUnits, lead, low, ch]
          · cases others : units bigEndian [] rest with
            | none => simp [others] at read
            | some others => simp [others, ofUnits, lead, low] at read
      · by_cases stray : 0xDC00 ≤ u ∧ u ≤ 0xDFFF
        · cases others : units bigEndian [] rest with
          | none => simp [others] at read
          | some others => simp [others, ofUnits_unpaired lead, stray] at read
        · apply begins_two (Char.ofNat u :: back) (by omega) _ (prefix_push back _) rfl
          intro rest
          rw [units_pair, unit, Option.bind_map]
          congr 1
          funext others
          rw [Function.comp_apply, ofUnits_unpaired lead, if_neg stray]

end Utf16

section Utf8

/-- The octets of characters. -/
def octetsOf (text : List Char) : List UInt8 :=
  text.flatMap String.utf8EncodeChar

theorem ofOctets_append (s t : List UInt8) :
    Bytes.ofOctets (s ++ t) = Bytes.ofOctets s ++ Bytes.ofOctets t := by
  apply ByteArray.ext
  simp [Bytes.ofOctets]

theorem utf8Encode_eq (text : List Char) : text.utf8Encode = Bytes.ofOctets (octetsOf text) := by
  apply ByteArray.ext
  simp [List.utf8Encode, octetsOf, Bytes.ofOctets]

/-- The characters that octets are the UTF-8 form of. -/
def utf8Chars? (s : List UInt8) : Option (List Char) :=
  (Bytes.ofOctets s).toText?.map String.toList

theorem utf8Chars?_iff (s : List UInt8) (text : List Char) :
    utf8Chars? s = some text ↔ s = octetsOf text := by
  unfold utf8Chars?
  rw [Option.map_eq_some_iff]
  constructor
  · rintro ⟨words, read, rfl⟩
    have valid : words.toByteArray = Bytes.ofOctets s := by
      simp only [Bytes.toText?, String.fromUTF8?] at read
      split at read
      · cases read
        rfl
      · cases read
    rw [← String.utf8Encode_toList, utf8Encode_eq] at valid
    rw [← Bytes.octets_ofOctets s, ← valid, Bytes.octets_ofOctets]
  · rintro rfl
    refine ⟨String.ofList text, ?_, String.toList_ofList⟩
    rw [← utf8Encode_eq, Bytes.toText?, String.fromUTF8?, dif_pos ByteArray.isValidUTF8_utf8Encode]
    rfl

/-- Octets do not begin with those of two characters. -/
theorem first_unique {c other : Char} {s t : List UInt8}
    (same : octetsOf [c] ++ s = octetsOf [other] ++ t) : c = other := by
  have bytes := congrArg Bytes.ofOctets same
  rw [ofOctets_append, ofOctets_append, ← utf8Encode_eq, ← utf8Encode_eq,
    List.utf8Encode_singleton, List.utf8Encode_singleton] at bytes
  have decoded := congrArg (ByteArray.utf8DecodeChar? · 0) bytes
  simpa [ByteArray.utf8DecodeChar?_utf8EncodeChar_append] using decoded

theorem octetsOf_cons (c : Char) (text : List Char) :
    octetsOf (c :: text) = octetsOf [c] ++ octetsOf text := by
  simp [octetsOf]

theorem length_octetsOf (c : Char) : (octetsOf [c]).length = c.utf8Size := by
  simp [octetsOf]

/-- Behind a character its reading goes on. -/
theorem utf8Chars?_cons (c : Char) (rest : List UInt8) :
    utf8Chars? (octetsOf [c] ++ rest) = (utf8Chars? rest).map (c :: ·) := by
  apply Option.ext
  intro text
  rw [utf8Chars?_iff, Option.map_eq_some_iff]
  constructor
  · intro whole
    cases text with
    | nil =>
      have size := congrArg List.length whole
      rw [List.length_append, length_octetsOf] at size
      have positive := c.utf8Size_pos
      simp [octetsOf] at size
      omega
    | cons other text =>
      rw [octetsOf_cons other] at whole
      obtain rfl := first_unique whole
      exact ⟨text, (utf8Chars?_iff rest text).mpr (List.append_cancel_left whole), rfl⟩
  · rintro ⟨text, read, rfl⟩
    rw [(utf8Chars?_iff rest text).mp read, ← octetsOf_cons]

/-- A part of a character is no text. -/
theorem utf8Chars?_part (c : Char) {n : Nat} (positive : 0 < n) (less : n < (octetsOf [c]).length) :
    utf8Chars? ((octetsOf [c]).take n) = none := by
  cases read : utf8Chars? ((octetsOf [c]).take n) with
  | none => rfl
  | some text =>
    have part := (utf8Chars?_iff _ text).mp read
    have size := congrArg List.length part
    rw [List.length_take_of_le (Nat.le_of_lt less)] at size
    cases text with
    | nil => exact absurd size (Nat.ne_of_gt positive)
    | cons other text =>
      have whole := List.take_append_drop n (octetsOf [c])
      rw [part, octetsOf_cons other, List.append_assoc] at whole
      obtain rfl := first_unique (whole.trans (List.append_nil _).symm)
      rw [octetsOf_cons other, List.length_append] at size
      omega

/-- UTF-8. -/
abbrev utf8 : Decoder (List Char) :=
  ⟨fun before s => (utf8Chars? s).map (before ++ ·), id⟩

theorem piecewise_utf8 : Piecewise 4 utf8 where
  finished := fun before => by simp [(utf8Chars?_iff [] []).mpr rfl]
  begins := by
    intro before a rest text read
    change (utf8Chars? (a :: rest)).map (before ++ ·) = some text at read
    obtain ⟨words, read, -⟩ := Option.map_eq_some_iff.mp read
    cases words with
    | nil => cases (utf8Chars?_iff _ _).mp read
    | cons c words =>
      refine ⟨octetsOf [c], octetsOf words, before ++ [c], ?piece, ?whole⟩
      case whole => rw [(utf8Chars?_iff _ _).mp read, octetsOf_cons]
      case piece =>
        have size := length_octetsOf c
        have positive := c.utf8Size_pos
        constructor
        case something => exact List.ne_nil_of_length_pos (by omega)
        case short =>
          rw [size]
          exact c.utf8Size_le_four
        case reads =>
          intro rest
          simp [utf8Chars?_cons, Function.comp_def]
        case adds => exact ⟨[c], rfl⟩
        case indivisible =>
          intro n positive less
          simp [utf8Chars?_part c positive less]

end Utf8

/-! ## All charsets -/

/-- The most octets that a scheme reads as one. -/
def width : Scheme → Nat
  | .utf8 | .utf16 _ | .gb18030 => 4
  | .eucJp | .iso2022Jp => 3
  | .big5 | .shiftJis | .eucKr => 2
  | .userDefined | .table _ | .refused => 1

/-- Octets are decoded piece by piece, from a state in which nothing was read. -/
def ByPieces (width : Nat) (decode : Bytes → Option String) : Prop :=
  ∃ (State : Type) (d : Decoder State) (start : State), Piecewise width d ∧
    ∀ b, (decode b).map String.toList = d.decode start b.octets

theorem byPieces_of_chars {State : Type} {width : Nat} {d : Decoder State}
    (piecewise : Piecewise width d) (start : State) (decode : List UInt8 → Option (List Char))
    (same : ∀ s, decode s = d.decode start s) :
    ByPieces width fun b => (decode b.octets).map String.ofList := by
  refine ⟨State, d, start, piecewise, fun b => ?_⟩
  rw [← same, Option.map_map]
  cases decode b.octets with
  | none => rfl
  | some text => simp

/-- Where nothing is ever read there are no pieces. -/
theorem piecewise_refused :
    Piecewise 1 (⟨fun _ s => if s.isEmpty then some [] else none, fun _ => []⟩ : Decoder Unit) where
  finished := fun _ => rfl
  begins := nofun

/-- The octets of the users' charset are read one by one. -/
theorem userDefined_chars (s : List UInt8) :
    (s.mapM fun b => (decodeUserDefined [b]).head?) = some (decodeUserDefined s) :=
  List.mapM_pure

/-- Every charset is decoded by pieces, whatever its tables hold. -/
theorem decode_byPieces (c : Charset) : ByPieces (width c.scheme) c.decode := by
  obtain ⟨name, scheme, labels⟩ := c
  unfold Charset.decode
  cases scheme with
  | utf8 =>
    refine ⟨_, utf8, [], piecewise_utf8, fun b => ?_⟩
    simp [utf8Chars?, Function.comp_def]
  | utf16 bigEndian => exact byPieces_of_chars (piecewise_utf16 bigEndian) [] _ fun _ => rfl
  | userDefined =>
    have table := piecewise_table fun b => (decodeUserDefined [b]).head?
    refine byPieces_of_chars table [] (some <| decodeUserDefined ·) fun s => ?_
    simp [userDefined_chars]
  | gb18030 => exact byPieces_of_chars (piecewise_guobiao _ _) [] _ fun _ => rfl
  | big5 => exact byPieces_of_chars (piecewise_pairs _ _ _) [] _ fun _ => rfl
  | eucJp => exact byPieces_of_chars (piecewise_eucJp _ _) [] _ fun _ => rfl
  | iso2022Jp => exact byPieces_of_chars (piecewise_iso2022Jp _) (.ascii, false, []) _ fun _ => rfl
  | shiftJis => exact byPieces_of_chars (piecewise_pairs _ _ _) [] _ fun _ => rfl
  | eucKr => exact byPieces_of_chars (piecewise_pairs _ _ _) [] _ fun _ => rfl
  | table upper =>
    have table := piecewise_table (SingleByte.char? upper.toList.toArray)
    refine byPieces_of_chars table [] (SingleByte.decode upper) fun s => ?_
    simp [SingleByte.decode]
  | refused =>
    refine ⟨_, _, (), piecewise_refused, fun b => ?_⟩
    obtain ⟨⟨octets⟩⟩ := b
    cases octets <;> rfl

theorem octets_front (b : Bytes) (n : Nat) :
    Bytes.octets (b.extract 0 n) = b.octets.take n := by
  simp [Bytes.octets]

theorem decode_front {c : Charset} {State : Type} {d : Decoder State} {start : State}
    (same : ∀ b, (c.decode b).map String.toList = d.decode start b.octets) (b : Bytes) (n : Nat) :
    (c.decode (b.extract 0 n)).map String.toList = d.decode start (b.octets.take n) := by
  rw [same, octets_front]

section Charsets
variable (c : Charset) {b : Bytes} {text : String} (whole : c.decode b = some text) (n : Nat)
include whole

/-- If the front of a text is text in the same charset, it is a front of its text. -/
theorem front_is_prefix {words : String} (front : c.decode (b.extract 0 n) = some words) :
    words.toList <+: text.toList := by
  obtain ⟨State, d, start, piecewise, same⟩ := decode_byPieces c
  have read := (same b).symm.trans (congrArg _ whole)
  have cut := (decode_front same b n).symm.trans (congrArg _ front)
  exact front_of_text piecewise (pieces_of_text piecewise read) cut

/-- There is text up to the last end of a piece, however a text is cut. -/
theorem text_nearby :
    ∃ k words, k ≤ n ∧ n < k + width c.scheme ∧ c.decode (b.extract 0 k) = some words ∧
      words.toList <+: text.toList := by
  obtain ⟨State, d, start, piecewise, same⟩ := decode_byPieces c
  have read := (same b).symm.trans (congrArg _ whole)
  have positive : 0 < width c.scheme := by cases c.scheme <;> simp [width]
  obtain ⟨k, words, before, near, cut⟩ :=
    nearby_front piecewise positive (pieces_of_text piecewise read) n
  rw [← decode_front same, Option.map_eq_some_iff] at cut
  obtain ⟨words, front, rfl⟩ := cut
  exact ⟨k, words, before, near, front, front_is_prefix c whole k front⟩

end Charsets
end Wirelog.TextFronts
