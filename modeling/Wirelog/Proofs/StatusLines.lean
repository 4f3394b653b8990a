import Mathlib.Data.List.TakeWhile
import Wirelog.Forward.Tunnel
import Wirelog.Proofs.DigitRows
import Wirelog.Proofs.TextFronts

/-! The status line of a head. Which characters of it are the line and which of these are the
status is said by where they stand, apart from how they are found. A head is octets and need not be
text: what is no text in it is replaced, and this leaves its ends of lines alone. -/
namespace Wirelog.StatusLines
open Forward Text DigitRows TextFronts

/-! ## Words -/

section Words
variable {p : Char → Bool}

/-- A row of characters that belong to no gap, and at least one. -/
structure IsWord (p : Char → Bool) (word : List Char) : Prop where
  filled : word ≠ []
  solid : ∀ c ∈ word, p c = false

theorem words_gap {gap : List Char} (blank : ∀ c ∈ gap, p c = true) (rest : List Char) :
    words p (gap ++ rest) = words p rest := by
  induction gap with
  | nil => rfl
  | cons c gap ih =>
    have first := blank c List.mem_cons_self
    have later := ih fun d member => blank d (List.mem_cons_of_mem _ member)
    unfold words at later ⊢
    rw [List.cons_append, words.go, if_pos first]
    exact later

theorem words_blank {gap : List Char} (blank : ∀ c ∈ gap, p c = true) : words p gap = [] := by
  have whole := words_gap blank []
  rw [List.append_nil] at whole
  exact whole

private theorem words_go {back word rest : List Char} (begun : back ≠ [])
    (solid : ∀ c ∈ word, p c = false) (ends : Stops (fun c => !p c) rest) :
    words.go p back (word ++ rest) = (back.reverse ++ word) :: words p rest := by
  have nonempty {row : List Char} (filled : row ≠ []) : row.isEmpty = false :=
    List.isEmpty_eq_false_iff.mpr filled
  induction word generalizing back with
  | nil =>
    rw [List.nil_append, List.append_nil]
    cases rest with
    | nil => simp [words.go, words, begun]
    | cons c rest =>
      have outside : p c = true := by simpa using ends c rfl
      simp [words.go, words, begun, outside]
  | cons c word ih =>
    have inside := solid c List.mem_cons_self
    have later := ih (List.cons_ne_nil c back) fun d member =>
      solid d (List.mem_cons_of_mem _ member)
    rw [List.cons_append, words.go, if_neg (by rw [inside]; exact Bool.false_ne_true), later,
      List.reverse_cons, List.append_assoc]
    rfl

theorem words_word {word rest : List Char} (isWord : IsWord p word)
    (ends : Stops (fun c => !p c) rest) : words p (word ++ rest) = word :: words p rest := by
  obtain ⟨filled, solid⟩ := isWord
  cases word with
  | nil => exact absurd rfl filled
  | cons c word =>
    have inside := solid c List.mem_cons_self
    have begun : words.go p [] (c :: word ++ rest) = words.go p [c] (word ++ rest) := by
      rw [List.cons_append, words.go, if_neg (by rw [inside]; exact Bool.false_ne_true)]
    rw [words, begun, words_go (List.cons_ne_nil c []) _ ends]
    · rfl
    · exact fun d member => solid d (List.mem_cons_of_mem _ member)

/-- A text is blank, or it is a gap, a word and a rest that does not prolong it. -/
theorem parted (p : Char → Bool) (s : List Char) :
    (∀ c ∈ s, p c = true) ∨ ∃ gap word rest, s = gap ++ (word ++ rest) ∧
      (∀ c ∈ gap, p c = true) ∧ IsWord p word ∧ Stops (fun c => !p c) rest := by
  have halves := List.takeWhile_append_dropWhile (p := p) (l := s)
  have blank : ∀ c ∈ s.takeWhile p, p c = true := fun c member => List.mem_takeWhile_imp member
  cases behind : s.dropWhile p with
  | nil =>
    rw [behind, List.append_nil] at halves
    rw [halves] at blank
    exact .inl blank
  | cons c rest =>
    have outside : p c = false := by
      have first := List.head?_dropWhile_not p s
      rw [behind] at first
      simpa using first
    refine .inr ⟨s.takeWhile p, (c :: rest).takeWhile (fun c => !p c),
      (c :: rest).dropWhile (fun c => !p c), ?_, blank, ⟨?_, ?_⟩, ?_⟩
    · rw [List.takeWhile_append_dropWhile, ← behind, halves]
    · simp [outside]
    · intro d member
      simpa using List.mem_takeWhile_imp member
    · intro d first
      have stopped := List.head?_dropWhile_not (fun c => !p c) (c :: rest)
      rw [Option.mem_def.mp first] at stopped
      simpa using stopped

/-- That a word is the second of a line: it stands behind a word and a gap, and it ends the line or
a blank follows. -/
inductive SecondWord (p : Char → Bool) : List Char → List Char → Prop where
  | stands {lead first gap word rest : List Char} (indented : ∀ c ∈ lead, p c = true)
      (isFirst : IsWord p first) (apart : gap ≠ []) (blank : ∀ c ∈ gap, p c = true)
      (isWord : IsWord p word) (ends : Stops (fun c => !p c) rest) :
      SecondWord p (lead ++ (first ++ (gap ++ (word ++ rest)))) word

theorem stops_gap {gap rest : List Char} (apart : gap ≠ []) (blank : ∀ c ∈ gap, p c = true) :
    Stops (fun c => !p c) (gap ++ rest) := by
  intro c first
  cases gap with
  | nil => exact absurd rfl apart
  | cons d gap =>
    obtain rfl : d = c := Option.some.inj first
    simp [blank d List.mem_cons_self]

theorem second_word_iff {line word : List Char} :
    (words p line)[1]? = some word ↔ SecondWord p line word := by
  constructor
  · intro found
    rcases parted p line with blank | ⟨lead, first, rest, rfl, indented, isFirst, ends⟩
    · rw [words_blank blank] at found
      cases found
    rw [words_gap indented, words_word isFirst ends] at found
    rcases parted p rest with blank | ⟨gap, second, rest, rfl, blank, isWord, ends'⟩
    · rw [words_blank blank] at found
      cases found
    rw [words_gap blank, words_word isWord ends'] at found
    obtain rfl : second = word := Option.some.inj found
    refine .stands indented isFirst ?apart blank isWord ends'
    rintro rfl
    obtain ⟨c, tail, rfl⟩ := List.exists_cons_of_ne_nil isWord.filled
    have outside := ends c rfl
    simp [isWord.solid c List.mem_cons_self] at outside
  · rintro ⟨indented, isFirst, apart, blank, isWord, ends⟩
    rw [words_gap indented, words_word isFirst (stops_gap apart blank), words_gap blank,
      words_word isWord ends]
    rfl

end Words

/-! ## The first line -/

/-- That a line is the first of a text: it ends before a line feed, and a carriage return before
this belongs to the end of the line. -/
inductive FirstLine : List Char → List Char → Prop where
  | bare {line : List Char} (rest : List Char) (unbroken : '\n' ∉ line)
      (unreturned : line.getLast? ≠ some '\r') : FirstLine (line ++ '\n' :: rest) line
  | returned {line : List Char} (rest : List Char) (unbroken : '\n' ∉ line) :
      FirstLine (line ++ '\r' :: '\n' :: rest) line

private theorem before_feed {front : List Char} (rest : List Char) (unbroken : '\n' ∉ front) :
    (front ++ '\n' :: rest).takeWhile (· != '\n') = front := by
  apply takeWhile_row
  · intro c member
    rw [bne_iff_ne]
    rintro rfl
    exact unbroken member
  · exact stops_cons rest rfl

theorem firstLine_returned {text : String} {line rest : List Char}
    (whole : text.toList = line ++ '\r' :: '\n' :: rest) (unbroken : '\n' ∉ line) :
    (firstLine text).toList = line := by
  have front : text.toList.takeWhile (· != '\n') = line ++ ['\r'] := by
    have split_up : text.toList = (line ++ ['\r']) ++ '\n' :: rest := by simp [whole]
    rw [split_up, before_feed rest (by simpa using unbroken)]
  rw [firstLine, String.toList_ofList, front, List.reverse_append]
  exact List.reverse_reverse line

theorem firstLine_bare {text : String} {line rest : List Char}
    (whole : text.toList = line ++ '\n' :: rest) (unbroken : '\n' ∉ line)
    (unreturned : line.getLast? ≠ some '\r') : (firstLine text).toList = line := by
  rw [firstLine, String.toList_ofList, whole, before_feed rest unbroken]
  split
  · rename_i back same
    have last := congrArg List.head? same
    rw [List.head?_reverse] at last
    exact absurd last unreturned
  · rfl

/-- In a text with an end of line, the first line is what is found as such. -/
theorem firstLine_iff {text : String} {line : List Char} (feeds : '\n' ∈ text.toList) :
    (firstLine text).toList = line ↔ FirstLine text.toList line := by
  constructor
  · rintro rfl
    obtain ⟨front, rest, whole, unbroken⟩ := List.eq_append_cons_of_mem feeds
    by_cases returned : front.getLast? = some '\r'
    · obtain ⟨line, rfl⟩ := List.getLast?_eq_some_iff.mp returned
      have unbroken' : '\n' ∉ line := fun member => unbroken (List.mem_append_left _ member)
      rw [List.append_assoc] at whole
      rw [firstLine_returned whole unbroken', whole]
      exact .returned rest unbroken'
    · rw [firstLine_bare whole unbroken returned, whole]
      exact .bare rest unbroken returned
  · generalize whole : text.toList = all
    rintro (⟨rest, unbroken, unreturned⟩ | ⟨rest, unbroken⟩)
    · exact firstLine_bare whole unbroken unreturned
    · exact firstLine_returned whole unbroken

/-! ## Success -/

/-- That a text begins with a line of success: the second word of the line is a number, and this is
from two hundred to two hundred and ninety-nine. -/
inductive Succeeds (text : List Char) : Prop where
  | stated {line word : List Char} {status : Nat} (first : FirstLine text line)
      (second : SecondWord isBlank line word) (number : Denotes word status) (least : 200 ≤ status)
      (most : status ≤ 299) : Succeeds text

theorem statusOf_iff {line : String} {status : Nat} : statusOf line = some status ↔
    ∃ word, SecondWord isBlank line.toList word ∧ Denotes word status ∧ status < UInt16.size := by
  rw [statusOf, Option.bind_eq_some_iff]
  simp only [second_word_iff, word_iff]
  rfl

theorem grants_iff {line : String} :
    grants line = true ↔ ∃ status, statusOf line = some status ∧ 200 ≤ status ∧ status < 300 := by
  rw [grants]
  cases statusOf line with
  | none => simp
  | some status => simp

theorem granted_iff {text : String} (feeds : '\n' ∈ text.toList) :
    grants (firstLine text) = true ↔ Succeeds text.toList := by
  rw [grants_iff]
  constructor
  · rintro ⟨status, found, least, below⟩
    obtain ⟨word, second, number, -⟩ := statusOf_iff.mp found
    exact .stated ((firstLine_iff feeds).mp rfl) second number least (Nat.le_of_lt_succ below)
  · rintro ⟨first, second, number, least, most⟩
    rw [← (firstLine_iff feeds).mpr first] at second
    refine ⟨_, statusOf_iff.mpr ⟨_, second, number, ?_⟩, least, Nat.lt_succ_of_le most⟩
    exact Nat.lt_of_le_of_lt most (by decide)

/-! ## Octets and text -/

/-- Only the end of a line has its octet in UTF-8. -/
theorem feed_of_octet {c : Char} (within : 10 ∈ String.utf8EncodeChar c) : c = '\n' := by
  have value {n : Nat} (same : (10 : UInt8) = UInt8.ofNat n) : n % 256 = 10 :=
    (congrArg UInt8.toNat same).symm
  -- Every octet of a longer character has its highest bit set.
  have high {n : Nat} (bits : 128 ≤ n ∧ n < 256) (same : (10 : UInt8) = UInt8.ofNat n) : False := by
    have := value same
    omega
  unfold String.utf8EncodeChar at within
  simp only at within
  split at within
  · have small : c.toNat % 256 = 10 := value (List.mem_singleton.mp within)
    have same : c.toNat = '\n'.toNat := by
      change c.toNat = 10
      have : c.toNat ≤ 127 := ‹_›
      omega
    exact Char.toNat_inj.mp same
  exfalso
  split at within <;> [skip; split at within] <;>
    simp only [List.mem_cons, List.not_mem_nil, or_false] at within
  · rcases within with same | same <;> exact high (by omega) same
  · rcases within with same | same | same <;> exact high (by omega) same
  · rcases within with same | same | same | same <;> exact high (by omega) same

/-- The octets that follow a first one stand above all of ASCII. -/
theorem lead_above {b : UInt8} {lead : Lead} (found : Lead.of? b = some lead) :
    lead.follow = 0 ∨ 10 < lead.low := by
  unfold Lead.of? at found
  repeat' split at found
  all_goals cases found
  all_goals simp

theorem mem_followers {count : Nat} {low high : UInt8} (above : count = 0 ∨ 10 < low)
    {s : List UInt8} (within : 10 ∈ s) (acc : Nat) : 10 ∈ (followers count low high acc s).2 := by
  induction count generalizing low high acc s with
  | zero => exact within
  | succ count ih =>
    cases s with
    | nil => cases within
    | cons b rest =>
      unfold followers
      split
      · rename_i inside
        refine ih (.inr (by decide)) ?_ _
        rcases List.mem_cons.mp within with rfl | later
        · exact absurd inside.1 (UInt8.not_le.mpr (above.resolve_left (Nat.succ_ne_zero count)))
        · exact later
      · exact within

/-- What replaces octets that are no text leaves the ends of lines where they are. -/
theorem feed_of_lossyChars {s : List UInt8} (within : 10 ∈ s) : '\n' ∈ lossyChars s := by
  induction s using lossyChars.induct with
  | case1 => cases within
  | case2 b rest stray ih =>
    rw [lossyChars, stray]
    refine List.mem_cons_of_mem _ (ih ?_)
    rcases List.mem_cons.mp within with rfl | later
    · cases stray
    · exact later
  | case3 b rest lead found _ ih =>
    rw [lossyChars, found]
    rcases List.mem_cons.mp within with rfl | later
    · cases found
      exact List.mem_cons_self
    · exact List.mem_cons_of_mem _ (ih (mem_followers (lead_above found) later _))

theorem feed_of_lossy {s : List UInt8} (within : 10 ∈ s) :
    '\n' ∈ (lossy (Bytes.ofOctets s)).toList := by
  unfold lossy
  split
  · rename_i text read
    have chars : utf8Chars? s = some text.toList := by rw [utf8Chars?, read]; rfl
    rw [(utf8Chars?_iff s text.toList).mp chars] at within
    obtain ⟨c, member, octet⟩ := List.mem_flatMap.mp within
    rwa [← feed_of_octet octet]
  · rw [String.toList_ofList, Bytes.octets_ofOctets]
    exact feed_of_lossyChars within

end Wirelog.StatusLines
