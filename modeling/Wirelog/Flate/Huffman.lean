import Wirelog.Flate.Bits
/-!
Prefix codes given by the lengths of their words. Words of one length are numbered in the order of
their symbols, shorter words come first. A set of lengths that leaves words unused is refused, but
for a code with at most one word, where the unused words are faults only when they are met.
-/
namespace Wirelog.Flate

/-- Why a compressed stream cannot be read on. -/
inductive Fault where
  /-- The octets cannot be such a stream. -/
  | corrupt
  /-- The octets end before the stream does. -/
  | incomplete
deriving DecidableEq, Inhabited

/-- The longest word of a code. -/
def maxWord : Nat := 15

/-- A prefix code: how many words there are of each length, and the symbols in the order of their
words. -/
structure Code where
  /-- `counts[l]` words have length `l`. -/
  counts : Array Nat
  /-- The symbol of each word. -/
  symbols : Array Nat
deriving Inhabited

namespace Code

/-- The number of symbols of one length. -/
def countOf (lengths : List Nat) (l : Nat) : Nat :=
  (lengths.filter (· == l)).length

/-- The code with the given word length for each symbol; length zero means no word. -/
def ofLengths (lengths : List Nat) : Code :=
  let counts := (List.range (maxWord + 1)).map fun l => if l = 0 then 0 else countOf lengths l
  let indexed := lengths.zipIdx
  let symbols := (List.range maxWord).flatMap fun l =>
    (indexed.filter fun p => p.1 == l + 1).map Prod.snd
  ⟨counts.toArray, symbols.toArray⟩

/-- The share of all words of the greatest length that the words of a code take up. -/
def share (c : Code) : Nat :=
  (List.range (maxWord + 1)).foldl (fun n l => n + c.counts.getD l 0 <<< (maxWord - l)) 0

/-- Whether every word is in use, or the code is allowed to leave words unused because it has at
most one. `needsTwo` withdraws that allowance. -/
def isUsable (c : Code) (needsTwo : Bool) : Bool :=
  c.share == 1 <<< maxWord || (c.symbols.size ≤ 1 && !needsTwo)

/-- Reads one word: the symbol and the position after it. `first` is the number of the first word
of the present length, `index` that of its symbol. -/
def decode (c : Code) (src : Bytes) (pos : Nat) : Except Fault (Nat × Nat) :=
  go maxWord 1 0 0 0 pos
where
  /-- Tries the words of the present length; `fuel` lengths are left. -/
  go (fuel len word first index pos : Nat) : Except Fault (Nat × Nat) :=
    match fuel with
    | 0 => .error .corrupt
    | fuel + 1 =>
      match bitAt src pos with
      | none => .error .incomplete
      | some b =>
        let word := word + b
        let count := c.counts.getD len 0
        if word < first + count then
          .ok (c.symbols.getD (index + (word - first)) 0, pos + 1)
        else go fuel (len + 1) (word * 2) ((first + count) * 2) (index + count) (pos + 1)

end Code
end Wirelog.Flate
