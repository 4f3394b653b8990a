import Wirelog.Bytes
/-!
Text in UTF-8. Strict decoding refuses octets that are not UTF-8. Lossy decoding puts U+FFFD in the
place of each maximal subpart of an ill-formed sequence and goes on after it.
-/
namespace Wirelog.Text

/-- The shape of a UTF-8 sequence by its first octet: how many octets follow, the range of the
first of them, and the bits that the first octet itself gives. -/
structure Lead where
  /-- Octets that follow. -/
  follow : Nat
  /-- Least second octet. -/
  low : UInt8
  /-- Greatest second octet. -/
  high : UInt8
  /-- Bits of the first octet. -/
  bits : Nat

/-- The sequences of well-formed UTF-8: no overlong form, no surrogate, nothing above U+10FFFF. -/
def Lead.of? (b : UInt8) : Option Lead :=
  if b < 0x80 then some ⟨0, 0, 0, b.toNat⟩
  else if 0xC2 ≤ b ∧ b ≤ 0xDF then some ⟨1, 0x80, 0xBF, b.toNat - 0xC0⟩
  else if b = 0xE0 then some ⟨2, 0xA0, 0xBF, 0⟩
  else if b = 0xED then some ⟨2, 0x80, 0x9F, 0xD⟩
  else if 0xE1 ≤ b ∧ b ≤ 0xEF then some ⟨2, 0x80, 0xBF, b.toNat - 0xE0⟩
  else if b = 0xF0 then some ⟨3, 0x90, 0xBF, 0⟩
  else if b = 0xF4 then some ⟨3, 0x80, 0x8F, 4⟩
  else if 0xF1 ≤ b ∧ b ≤ 0xF3 then some ⟨3, 0x80, 0xBF, b.toNat - 0xF0⟩
  else none

/-- Reads the octets that follow a first one: the character, or `none` where the sequence breaks,
and what is left either way. -/
def followers (count : Nat) (low high : UInt8) (acc : Nat) (s : List UInt8) :
    Option Char × List UInt8 :=
  match count, s with
  | 0, s => (some (Char.ofNat acc), s)
  | _ + 1, [] => (none, [])
  | n + 1, b :: rest =>
    if low ≤ b ∧ b ≤ high then followers n 0x80 0xBF (acc * 64 + (b.toNat - 0x80)) rest
    else (none, b :: rest)

theorem length_followers_le (count : Nat) (low high : UInt8) (acc : Nat) (s : List UInt8) :
    (followers count low high acc s).2.length ≤ s.length := by
  induction count generalizing low high acc s with
  | zero => simp [followers]
  | succ n ih =>
    cases s with
    | nil => simp [followers]
    | cons b rest =>
      unfold followers
      split
      · exact Nat.le_succ_of_le (ih ..)
      · exact Nat.le_refl _

/-- U+FFFD, which stands for octets that are no text. -/
def replacement : Char := '\uFFFD'

/-- Decodes UTF-8, one replacement character for each maximal subpart that is ill-formed. -/
def lossyChars (s : List UInt8) : List Char :=
  match s with
  | [] => []
  | b :: rest =>
    match Lead.of? b with
    | none => replacement :: lossyChars rest
    | some lead =>
      have := length_followers_le lead.follow lead.low lead.high lead.bits rest
      (followers lead.follow lead.low lead.high lead.bits rest).1.getD replacement ::
        lossyChars (followers lead.follow lead.low lead.high lead.bits rest).2
termination_by s.length

/-- The text of octets, ill-formed parts replaced. -/
def lossy (b : Bytes) : String :=
  match b.toText? with
  | some s => s
  | none => String.ofList (lossyChars b.octets)

end Wirelog.Text
