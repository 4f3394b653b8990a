import Wirelog.Proofs.RecoveredBodies

/-! Bodies under two limits. A container hands its octets over one after the other, so a smaller
limit sees the front of what a larger one sees, and damage that lies behind a limit goes
unnoticed. That would make the front of the result the result of the smaller limit, but deflate
bodies come with or without a container, and the reading without one is tried where the other
fails within the limit. What fails within the larger limit need not fail within the smaller one.
-/
namespace Wirelog.LimitCuts
open Body
open RecoveredBodies (ok_of_mapError within_bounded undeflate_bounded)

/-- A body cut at a limit. What was cut before stays cut. -/
def upTo (limit : Nat) (p : Plain) : Plain :=
  ⟨p.bytes.extract 0 limit, p.truncated || limit < p.bytes.size⟩

section Cuts
variable {limit larger : Nat} {p : Plain}

/-- Cutting twice is cutting at the smaller limit. -/
theorem upTo_upTo (less : limit ≤ larger) : upTo limit (upTo larger p) = upTo limit p := by
  unfold upTo
  congr 1
  · simp [ByteArray.extract_extract, Nat.min_eq_left less]
  · have size : (p.bytes.extract 0 larger).size = min larger p.bytes.size := by
      simp [ByteArray.size_extract]
    have either : larger < p.bytes.size ∨ limit < min larger p.bytes.size ↔
        limit < p.bytes.size := by omega
    rw [size, Bool.or_assoc, ← Bool.decide_or]
    simp only [either]

theorem extract_fits {b : Bytes} (fits : b.size ≤ limit) : b.extract 0 limit = b := by
  apply ByteArray.ext
  rw [ByteArray.data_extract]
  exact Array.extract_eq_self_of_le fits

theorem upTo_fits (fits : p.bytes.size ≤ limit) : upTo limit p = p := by
  unfold upTo
  rw [extract_fits fits, decide_eq_false (Nat.not_lt.mpr fits), Bool.or_false]

end Cuts

/-! ## One reading -/

/-- No damage comes before the limit. -/
def Clean (limit : Nat) (d : Flate.Decoded) : Prop :=
  d.damage = none ∨ limit < d.out.size

/-- What a reading hands over up to a limit. -/
def front (limit : Nat) (d : Flate.Decoded) : Plain :=
  upTo limit ⟨d.out, false⟩

section Readings
variable {limit larger : Nat} {d : Flate.Decoded} {whole : Plain}

theorem within_clean (clean : Clean limit d) : within limit d = .ok (front limit d) := by
  unfold within front
  by_cases beyond : limit < d.out.size
  · rw [if_pos beyond]
    simp [upTo, beyond]
  · rw [if_neg beyond, upTo_fits (Nat.le_of_not_lt beyond)]
    obtain whole | cut := clean
    · rw [whole]
    · contradiction

theorem within_damaged (damaged : ¬Clean limit d) : ∃ damage, within limit d = .error damage := by
  unfold Clean at damaged
  obtain ⟨present, short⟩ := not_or.mp damaged
  obtain ⟨damage, found⟩ := Option.ne_none_iff_exists'.mp present
  refine ⟨damage, ?_⟩
  unfold within
  rw [if_neg short, found]

/-- A reading succeeds just if no damage comes before the limit. -/
theorem within_ok (read : within limit d = .ok whole) : Clean limit d ∧ whole = front limit d := by
  by_cases clean : Clean limit d
  · rw [within_clean clean] at read
    cases read
    exact ⟨clean, rfl⟩
  · obtain ⟨damage, failed⟩ := within_damaged clean
    cases failed.symm.trans read

theorem clean_of_larger (less : limit ≤ larger) (clean : Clean larger d) : Clean limit d :=
  clean.imp_right (Nat.lt_of_le_of_lt less)

/-- A smaller limit cuts what a reading gives and does nothing else. -/
theorem within_smaller (less : limit ≤ larger) (read : within larger d = .ok whole) :
    within limit d = .ok (upTo limit whole) := by
  obtain ⟨clean, rfl⟩ := within_ok read
  rw [within_clean (clean_of_larger less clean), front, front, upTo_upTo less]

/-- A reading that comes to its end is the same under every limit that it fits. -/
theorem within_whole {body : Bytes} (read : within larger d = .ok ⟨body, false⟩) :
    d = ⟨body, none⟩ := by
  obtain ⟨clean, same⟩ := within_ok read
  obtain ⟨out, damage⟩ := d
  have uncut : ¬larger < out.size := by
    intro beyond
    have cut := congrArg Plain.truncated same
    simp [front, upTo, beyond] at cut
  obtain whole | beyond := clean
  · have octets := congrArg Plain.bytes same
    rw [front, upTo_fits (Nat.le_of_not_lt uncut)] at octets
    cases whole
    cases octets
    rfl
  · contradiction

end Readings

/-! ## The encodings -/

/-- The name of an encoding as it is looked up. -/
def nameOf (encoding : Option String) : Option String :=
  encoding.map fun e => Text.asciiLower (Text.trim e)

/-- The encodings that have to be undone. -/
def Packed (encoding : Option String) : Prop :=
  nameOf encoding ∈ [some "gzip", some "x-gzip", some "deflate"]

instance instDecidablePacked (encoding : Option String) : Decidable (Packed encoding) :=
  inferInstanceAs (Decidable (_ ∈ _))

/-- A deflate body whose container is damaged behind one limit and before another. -/
structure Contested (encoding : Option String) (limit larger : Nat) (body : Bytes) : Prop where
  deflate : nameOf encoding = some "deflate"
  damaged : (Flate.decodeZlib body).damage ≠ none
  beyond : limit < (Flate.decodeZlib body).out.size
  within : (Flate.decodeZlib body).out.size ≤ larger

section Encodings
variable {encoding : Option String} {limit larger : Nat} {body : Bytes} {whole : Plain}

theorem decompress_gzip (name : nameOf encoding = some "gzip" ∨ nameOf encoding = some "x-gzip") :
    decompress encoding body limit = (within limit (Flate.decodeGzip body)).mapError .gzip := by
  unfold nameOf at name
  obtain name | name := name <;> simp only [decompress, name]

theorem decompress_deflate (name : nameOf encoding = some "deflate") :
    decompress encoding body limit = (undeflate limit body).mapError .deflate := by
  unfold nameOf at name
  simp only [decompress, name]

theorem undeflate_container (clean : Clean limit (Flate.decodeZlib body)) :
    undeflate limit body = .ok (front limit (Flate.decodeZlib body)) := by
  unfold undeflate
  rw [within_clean clean]

theorem undeflate_bare (damaged : ¬Clean limit (Flate.decodeZlib body)) :
    undeflate limit body = within limit (Flate.decodeRaw body) := by
  obtain ⟨damage, failed⟩ := within_damaged damaged
  unfold undeflate
  rw [failed]

theorem packed_cases (packed : Packed encoding) :
    (nameOf encoding = some "gzip" ∨ nameOf encoding = some "x-gzip") ∨
      nameOf encoding = some "deflate" := by
  simpa [Packed, or_assoc] using packed

/-- What an encoding gives is never longer than the limit. -/
theorem packed_bounded (packed : Packed encoding)
    (decoded : decompress encoding body limit = .ok whole) : whole.bytes.size ≤ limit := by
  obtain name | name := packed_cases packed
  · rw [decompress_gzip name] at decoded
    exact within_bounded (ok_of_mapError decoded)
  · rw [decompress_deflate name] at decoded
    exact undeflate_bounded (ok_of_mapError decoded)

/-- A deflate body that is not contested is read in the same way under both limits. -/
theorem undeflate_smaller (less : limit ≤ larger)
    (uncontested : ¬Contested encoding limit larger body) (name : nameOf encoding = some "deflate")
    (undone : undeflate larger body = .ok whole) :
    undeflate limit body = .ok (upTo limit whole) := by
  by_cases clean : Clean larger (Flate.decodeZlib body)
  · rw [undeflate_container clean] at undone
    cases undone
    rw [undeflate_container (clean_of_larger less clean), front, front, upTo_upTo less]
  · obtain ⟨damaged, fits⟩ := not_or.mp clean
    have short : ¬limit < (Flate.decodeZlib body).out.size := fun beyond =>
      uncontested ⟨name, damaged, beyond, Nat.le_of_not_lt fits⟩
    rw [undeflate_bare clean] at undone
    rw [undeflate_bare (not_or.mpr ⟨damaged, short⟩)]
    exact within_smaller less undone

/-- A contested body is read with its container under one limit and without it under the other. -/
theorem undeflate_contested (contested : Contested encoding limit larger body)
    (undone : undeflate larger body = .ok whole) :
    undeflate limit body = .ok (front limit (Flate.decodeZlib body)) ∧
      whole = front larger (Flate.decodeRaw body) := by
  have damaged : ¬Clean larger (Flate.decodeZlib body) :=
    not_or.mpr ⟨contested.damaged, Nat.not_lt.mpr contested.within⟩
  rw [undeflate_bare damaged] at undone
  exact ⟨undeflate_container (.inr contested.beyond), (within_ok undone).2⟩

/-- Unless a body is contested, a smaller limit gives the front of what a larger one gives. -/
theorem decompress_smaller (packed : Packed encoding) (less : limit ≤ larger)
    (uncontested : ¬Contested encoding limit larger body)
    (decoded : decompress encoding body larger = .ok whole) :
    decompress encoding body limit = .ok (upTo limit whole) := by
  obtain name | name := packed_cases packed
  · rw [decompress_gzip name] at decoded ⊢
    rw [within_smaller less (ok_of_mapError decoded)]
    rfl
  · rw [decompress_deflate name] at decoded ⊢
    rw [undeflate_smaller less uncontested name (ok_of_mapError decoded)]
    rfl

theorem decompress_contested (contested : Contested encoding limit larger body)
    (decoded : decompress encoding body larger = .ok whole) :
    decompress encoding body limit = .ok (front limit (Flate.decodeZlib body)) ∧
      whole = front larger (Flate.decodeRaw body) := by
  rw [decompress_deflate contested.deflate] at decoded ⊢
  obtain ⟨cut, same⟩ := undeflate_contested contested (ok_of_mapError decoded)
  rw [cut]
  exact ⟨rfl, same⟩

/-- A body that was read to its end is cut at any limit, be it smaller or larger. -/
theorem decompress_whole {plain : Bytes} (packed : Packed encoding)
    (uncontested : ¬Contested encoding limit larger body)
    (decoded : decompress encoding body larger = .ok ⟨plain, false⟩) :
    decompress encoding body limit = .ok (upTo limit ⟨plain, false⟩) := by
  -- Whichever reading came to its end hands the same octets over under every limit.
  have again {d : Flate.Decoded} (read : within larger d = .ok ⟨plain, false⟩) :
      within limit d = .ok (upTo limit ⟨plain, false⟩) := by
    rw [within_whole read]
    exact within_clean (.inl rfl)
  obtain name | name := packed_cases packed
  · rw [decompress_gzip name] at decoded ⊢
    rw [again (ok_of_mapError decoded)]
    rfl
  · rw [decompress_deflate name] at decoded ⊢
    have undone := ok_of_mapError decoded
    suffices undeflate limit body = .ok (upTo limit ⟨plain, false⟩) by
      rw [this]
      rfl
    by_cases clean : Clean larger (Flate.decodeZlib body)
    · rw [undeflate_container clean, ← within_clean clean] at undone
      rw [undeflate, again undone]
    · obtain ⟨damaged, fits⟩ := not_or.mp clean
      have short : ¬limit < (Flate.decodeZlib body).out.size := fun beyond =>
        uncontested ⟨name, damaged, beyond, Nat.le_of_not_lt fits⟩
      rw [undeflate_bare clean] at undone
      rw [undeflate_bare (not_or.mpr ⟨damaged, short⟩), again undone]

/-- A body without an encoding is never cut. -/
theorem decompress_unpacked (unpacked : ¬Packed encoding)
    (decoded : decompress encoding body larger = .ok whole) :
    decompress encoding body limit = .ok whole ∧ whole = ⟨body, false⟩ := by
  unfold Packed nameOf at unpacked
  unfold decompress at decoded ⊢
  split at decoded
  case h_1 | h_2 | h_3 =>
    cases decoded
    exact ⟨rfl, rfl⟩
  case h_4 name | h_5 name | h_6 name => simp [name] at unpacked
  case h_7 => cases decoded

/-- What a smaller limit makes of a body that was read under a larger one. -/
structure CutDown (encoding : Option String) (body : Bytes) (limit larger : Nat) (whole : Plain) :
    Prop where
  /-- The larger limit holds. -/
  bounded : whole.bytes.size ≤ larger
  /-- The smaller limit gives something, and it holds, too. -/
  given : ∃ less, decompress encoding body limit = .ok less ∧ less.bytes.size ≤ limit
  /-- Unless the body is contested this is the front, marked if anything is missing. -/
  front : ¬Contested encoding limit larger body →
    decompress encoding body limit = .ok (upTo limit whole)
  /-- A contested body is cut in its container, though it was read without one before. -/
  contested : Contested encoding limit larger body →
    decompress encoding body limit = .ok (LimitCuts.front limit (Flate.decodeZlib body)) ∧
      whole = LimitCuts.front larger (Flate.decodeRaw body)
  /-- So it is the front just where a contested body begins in the same way in both readings. -/
  exact : decompress encoding body limit = .ok (upTo limit whole) ↔
    (Contested encoding limit larger body →
      LimitCuts.front limit (Flate.decodeZlib body) = upTo limit whole)

/-- A smaller limit cuts what a larger one gives, except for bodies that are damaged in between. -/
theorem smaller_limit_cuts (packed : Packed encoding) (less : limit ≤ larger)
    (decoded : decompress encoding body larger = .ok whole) :
    CutDown encoding body limit larger whole := by
  have front (uncontested : ¬Contested encoding limit larger body) :=
    decompress_smaller packed less uncontested decoded
  have contested (contested : Contested encoding limit larger body) :=
    decompress_contested contested decoded
  refine ⟨packed_bounded packed decoded, ?given, front, contested, ?exact⟩
  case given =>
    by_cases disputed : Contested encoding limit larger body
    · exact ⟨_, (contested disputed).1, packed_bounded packed (contested disputed).1⟩
    · exact ⟨_, front disputed, packed_bounded packed (front disputed)⟩
  case exact =>
    by_cases disputed : Contested encoding limit larger body
    · rw [(contested disputed).1]
      simp [disputed]
    · rw [front disputed]
      simp [disputed]

end Encodings

/-- A deflate body of three octets that also begins as a container of a longer one. -/
def ambiguous : Bytes :=
  Bytes.ofOctets [0x78, 0x01, 0x00, 0xFE, 0xFF, 0x01, 0x00, 0x02, 0x00, 0xFD, 0xFF, 0x68, 0x69,
    0x01, 0x00, 0x00, 0xFF, 0xFF]

/-- What it holds without a container. -/
def ambiguousWhole : Plain :=
  ⟨Bytes.ofOctets [0x01, 0x68, 0x69], false⟩

theorem ambiguous_whole : decompress (some "deflate") ambiguous 11 = .ok ambiguousWhole :=
  rfl

theorem smaller_limit_cuts_ambiguous :
    CutDown (some "deflate") ambiguous 2 11 ambiguousWhole :=
  smaller_limit_cuts (by decide) (by decide) ambiguous_whole

/-- The smaller limit gives no front of what the larger limit gives. -/
theorem front_of_other_reading :
    decompress (some "deflate") ambiguous 11 = .ok ambiguousWhole ∧
      decompress (some "deflate") ambiguous 2 ≠ .ok (upTo 2 ambiguousWhole) := by
  refine ⟨ambiguous_whole, fun same => ?_⟩
  have cut : decompress (some "deflate") ambiguous 2 = .ok ⟨Bytes.ofOctets [0x02, 0x00], true⟩ :=
    rfl
  rw [cut] at same
  have octets := congrArg (Bytes.octets ·.bytes) (Except.ok.inj same)
  exact absurd octets (by decide)

end Wirelog.LimitCuts
