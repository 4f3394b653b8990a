import Wirelog.Bytes

/-! Decoders that read piece by piece. A piece is a character, a pair of characters, or a sequence
that switches to another set. A part of a piece is no text, whatever stands in front of it, and
how a piece is read does not depend on what follows. So the front of a text is a front of the same
text when it ends with a piece, and else it is no text at all; and from every cut the last such
end is less than a piece away. -/
namespace Wirelog.TextPieces

/-- A decoder that goes on from what it has read so far. -/
structure Decoder (State : Type) where
  /-- The text of all octets, if those that are left are text. -/
  decode : State → List UInt8 → Option (List Char)
  /-- The characters so far. -/
  sofar : State → List Char

section Pieces
variable {State : Type} {width : Nat} {d : Decoder State}

/-- Octets that a decoder reads as one: it goes on behind them with what they add, and fewer of them
are no text. -/
structure Piece (width : Nat) (d : Decoder State) (state : State) (octets : List UInt8)
    (next : State) : Prop where
  something : octets ≠ []
  short : octets.length ≤ width
  reads : ∀ rest, d.decode state (octets ++ rest) = d.decode next rest
  adds : d.sofar state <+: d.sofar next
  indivisible : ∀ n, 0 < n → n < octets.length → d.decode state (octets.take n) = none

/-- Octets that begin with a piece. -/
def Begins (width : Nat) (d : Decoder State) (state : State) (s : List UInt8) : Prop :=
  ∃ octets behind next, Piece width d state octets next ∧ s = octets ++ behind

/-- A decoder that reads all that it reads by pieces. -/
structure Piecewise (width : Nat) (d : Decoder State) : Prop where
  finished : ∀ state, d.decode state [] = some (d.sofar state)
  begins : ∀ state first rest text, d.decode state (first :: rest) = some text →
    Begins width d state (first :: rest)

/-- Octets as the pieces that they are read by, and the text that this comes to. -/
inductive Pieces (width : Nat) (d : Decoder State) : State → List UInt8 → List Char → Prop where
  | nil : Pieces width d state [] (d.sofar state)
  | cons (piece : Piece width d state octets next) (rest : Pieces width d next behind text) :
      Pieces width d state (octets ++ behind) text

theorem pieces_of_text (piecewise : Piecewise width d) {state : State} {s : List UInt8}
    {text : List Char} (read : d.decode state s = some text) : Pieces width d state s text := by
  -- Every piece holds an octet, so what stands behind it is shorter.
  induction size : s.length using Nat.strongRecOn generalizing state s with
  | ind size ih =>
    cases s with
    | nil =>
      rw [piecewise.finished] at read
      cases read
      exact .nil
    | cons first rest =>
      obtain ⟨octets, behind, next, piece, split⟩ := piecewise.begins _ _ _ _ read
      have positive := List.length_pos_iff.mpr piece.something
      rw [split, piece.reads] at read
      rw [split] at size ⊢
      rw [List.length_append] at size
      exact .cons piece (ih behind.length (by omega) read rfl)

/-- What is read later stands behind what was read so far. -/
theorem sofar_of_pieces {state : State} {s : List UInt8} {text : List Char}
    (pieces : Pieces width d state s text) : d.sofar state <+: text := by
  induction pieces with
  | nil => exact List.prefix_rfl
  | cons piece _ ih => exact piece.adds.trans ih

/-- Up to a cut behind a piece everything is read as without the cut. -/
theorem take_behind {state next : State} {octets : List UInt8}
    (piece : Piece width d state octets next) (behind : List UInt8) {n : Nat}
    (reached : octets.length ≤ n) :
    d.decode state ((octets ++ behind).take n) =
      d.decode next (behind.take (n - octets.length)) := by
  rw [List.take_append, List.take_of_length_le reached, piece.reads]

/-- The front of a text is no text, or a front of its text. -/
theorem front_of_text (piecewise : Piecewise width d) {state : State} {s : List UInt8}
    {text words : List Char} (pieces : Pieces width d state s text) {n : Nat}
    (front : d.decode state (s.take n) = some words) : words <+: text := by
  induction pieces generalizing n with
  | nil =>
    rw [List.take_nil, piecewise.finished] at front
    cases front
    exact List.prefix_rfl
  | @cons state octets next behind text piece rest ih =>
    by_cases start : n = 0
    · rw [start, List.take_zero, piecewise.finished] at front
      cases front
      exact piece.adds.trans (sofar_of_pieces rest)
    by_cases reached : octets.length ≤ n
    · rw [take_behind piece behind reached] at front
      exact ih front
    · -- Inside the first piece there is no text in front of the cut.
      have inside := piece.indivisible n (by omega) (by omega)
      rw [List.take_append_of_le_length (by omega), inside] at front
      cases front

/-- From every cut, the end of a piece is less than a piece away. -/
theorem nearby_front (piecewise : Piecewise width d) (positive : 0 < width) {state : State}
    {s : List UInt8} {text : List Char} (pieces : Pieces width d state s text) (n : Nat) :
    ∃ k words, k ≤ n ∧ n < k + width ∧ d.decode state (s.take k) = some words := by
  induction pieces generalizing n with
  | @nil state =>
    refine ⟨n, d.sofar state, Nat.le_refl n, by omega, ?_⟩
    rw [List.take_nil, piecewise.finished]
  | @cons state octets next behind text piece _ ih =>
    by_cases reached : octets.length ≤ n
    · obtain ⟨k, words, before, near, read⟩ := ih (n - octets.length)
      refine ⟨octets.length + k, words, by omega, by omega, ?_⟩
      rw [take_behind piece behind (Nat.le_add_right ..), Nat.add_sub_cancel_left, read]
    · have short := piece.short
      refine ⟨0, d.sofar state, Nat.zero_le n, by omega, ?_⟩
      rw [List.take_zero, piecewise.finished]

section Beginnings
variable {decode : State → List UInt8 → Option (List Char)} {sofar : State → List Char}
  {state : State} (next : State) {a b c e : UInt8} {rest : List UInt8}

/-- One octet that is read by itself. -/
theorem begins_one (positive : 0 < width)
    (reads : ∀ rest, decode state (a :: rest) = decode next rest)
    (adds : sofar state <+: sofar next) : Begins width ⟨decode, sofar⟩ state (a :: rest) := by
  refine ⟨[a], rest, next, ⟨List.cons_ne_nil _ _, positive, reads, adds, ?_⟩, rfl⟩
  intro n positive less
  exact absurd less (Nat.not_lt.mpr positive)

/-- Two octets that are read together, where the first is nothing by itself. -/
theorem begins_two (two : 2 ≤ width)
    (reads : ∀ rest, decode state (a :: b :: rest) = decode next rest)
    (adds : sofar state <+: sofar next) (one : decode state [a] = none) :
    Begins width ⟨decode, sofar⟩ state (a :: b :: rest) := by
  refine ⟨[a, b], rest, next, ⟨List.cons_ne_nil _ _, two, reads, adds, ?_⟩, rfl⟩
  intro n positive less
  obtain rfl : n = 1 := Nat.le_antisymm (Nat.le_of_lt_succ less) positive
  exact one

/-- Three octets that are read together. -/
theorem begins_three (three : 3 ≤ width)
    (reads : ∀ rest, decode state (a :: b :: c :: rest) = decode next rest)
    (adds : sofar state <+: sofar next) (one : decode state [a] = none)
    (two : decode state [a, b] = none) :
    Begins width ⟨decode, sofar⟩ state (a :: b :: c :: rest) := by
  refine ⟨[a, b, c], rest, next, ⟨List.cons_ne_nil _ _, three, reads, adds, ?_⟩, rfl⟩
  intro n positive less
  have less : n < 3 := less
  obtain rfl | rfl : n = 1 ∨ n = 2 := by omega
  · exact one
  · exact two

/-- Four octets that are read together. -/
theorem begins_four (four : 4 ≤ width)
    (reads : ∀ rest, decode state (a :: b :: c :: e :: rest) = decode next rest)
    (adds : sofar state <+: sofar next) (one : decode state [a] = none)
    (two : decode state [a, b] = none) (three : decode state [a, b, c] = none) :
    Begins width ⟨decode, sofar⟩ state (a :: b :: c :: e :: rest) := by
  refine ⟨[a, b, c, e], rest, next, ⟨List.cons_ne_nil _ _, four, reads, adds, ?_⟩, rfl⟩
  intro n positive less
  have less : n < 4 := less
  obtain rfl | rfl | rfl : n = 1 ∨ n = 2 ∨ n = 3 := by omega
  · exact one
  · exact two
  · exact three

end Beginnings
end Pieces

/-- A decoder that holds the characters so far in reverse. -/
abbrev backwards (read : List Char → List UInt8 → Option (List Char)) : Decoder (List Char) :=
  ⟨read, List.reverse⟩

theorem prefix_push (back : List Char) (c : Char) : back.reverse <+: (c :: back).reverse :=
  ⟨[c], by simp⟩

end Wirelog.TextPieces
