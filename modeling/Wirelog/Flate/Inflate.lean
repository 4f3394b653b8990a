import Wirelog.Flate.Huffman
/-!
The deflate format: blocks of stored octets or of symbols under two prefix codes, where a symbol is
an octet or a reference back into the output.

Output is handed over in batches. A batch ends where a multiple of 32 KiB of output is complete, or
where the next 32 KiB of input begin. A fault takes back the batch it is found in, so of a damaged
stream only whole batches are ever seen; at the end of the input all that was read is seen.
-/
namespace Wirelog.Flate

/-- The reach of references, and the size of batches. -/
def window : Nat := 32768

/-- A stream while it is read. -/
structure Inflating where
  /-- Position in the input, in bits. -/
  pos : Nat
  /-- The output so far. -/
  out : Bytes
  /-- How much of the output belongs to finished batches. -/
  settled : Nat
deriving Inhabited

/-- What reading a stream comes to. -/
structure Inflated where
  /-- The output that is handed over. -/
  out : Bytes
  /-- How much of it belongs to finished batches. -/
  settled : Nat
  /-- Where the input was left, in octets. -/
  after : Nat
  /-- What stopped the reading, if not the end of the stream. -/
  fault : Option Fault
deriving Inhabited

namespace Inflating

/-- Whether reading from one bit position to another reaches into another 32 KiB of octets. -/
def crosses (before after : Nat) : Bool :=
  ((before + 7) / 8 - 1) / window < ((after + 7) / 8 - 1) / window

/-- Moves to a position of the input. A batch ends when that reaches into further input. -/
def moveTo : Inflating → Nat → Inflating
  | ⟨before, out, settled⟩, pos => ⟨pos, out, if crosses before pos then out.size else settled⟩

/-- Puts one octet out. A batch ends with each full window. -/
def put : Inflating → UInt8 → Inflating
  | ⟨pos, out, settled⟩, b =>
    let size := out.size + 1
    ⟨pos, out.push b, if size % window = 0 then size else settled⟩

/-- Repeats `count` octets from `dist` octets back. What lies before the start is zero. -/
def copy (s : Inflating) (dist : Nat) : Nat → Inflating
  | 0 => s
  | count + 1 =>
    let b := if dist ≤ s.out.size then s.out[s.out.size - dist]?.getD 0 else 0
    (s.put b).copy dist count

/-- Puts `count` stored octets out, from an octet offset on. -/
def copyStored (s : Inflating) (src : Bytes) (at0 : Nat) :
    Nat → Except (Inflating × Fault) Inflating
  | 0 => .ok s
  | count + 1 =>
    match src[at0]? with
    | some b => ((s.moveTo ((at0 + 1) * 8)).put b).copyStored src (at0 + 1) count
    | none => .error (s, .incomplete)

end Inflating

/-- Base length and number of extra bits of the symbols from 257 on. -/
def lengthTable : Array (Nat × Nat) :=
  #[(3, 0), (4, 0), (5, 0), (6, 0), (7, 0), (8, 0), (9, 0), (10, 0), (11, 1), (13, 1), (15, 1),
    (17, 1), (19, 2), (23, 2), (27, 2), (31, 2), (35, 3), (43, 3), (51, 3), (59, 3), (67, 4),
    (83, 4), (99, 4), (115, 4), (131, 5), (163, 5), (195, 5), (227, 5), (258, 0)]

/-- Base distance and number of extra bits of the distance symbols. -/
def distanceTable : Array (Nat × Nat) :=
  #[(1, 0), (2, 0), (3, 0), (4, 0), (5, 1), (7, 1), (9, 2), (13, 2), (17, 3), (25, 3), (33, 4),
    (49, 4), (65, 5), (97, 5), (129, 6), (193, 6), (257, 7), (385, 7), (513, 8), (769, 8),
    (1025, 9), (1537, 9), (2049, 10), (3073, 10), (4097, 11), (6145, 11), (8193, 12),
    (12289, 12), (16385, 13), (24577, 13)]

/-- A value with extra bits: the value and the position after it. -/
def extended (src : Bytes) (pos : Nat) (entry : Nat × Nat) : Except Fault (Nat × Nat) :=
  match bitsAt src pos entry.2 with
  | some extra => .ok (entry.1 + extra, pos + entry.2)
  | none => .error .incomplete

/-- What one symbol of a block says. -/
inductive Token where
  /-- An octet. -/
  | octet (b : UInt8)
  /-- A repetition of earlier output. -/
  | back (dist len : Nat)
  /-- The end of the block. -/
  | stop

/-- Reads one symbol with all that belongs to it. -/
def readToken (literal distance : Code) (src : Bytes) (pos : Nat) : Except Fault (Token × Nat) := do
  let (sym, pos) ← literal.decode src pos
  if sym < 256 then return (.octet (UInt8.ofNat sym), pos)
  if sym = 256 then return (.stop, pos)
  let some entry := lengthTable[sym - 257]? | throw .corrupt
  let (len, pos) ← extended src pos entry
  let (dsym, pos) ← distance.decode src pos
  let some entry := distanceTable[dsym]? | throw .corrupt
  let (dist, pos) ← extended src pos entry
  return (.back dist len, pos)

/-- Reads the symbols of a block; every symbol takes at least one bit, so `fuel` is the number of
bits that are left. -/
def readSymbols (literal distance : Code) (src : Bytes) :
    Nat → Inflating → Except (Inflating × Fault) Inflating
  | 0, s => .error (s, .incomplete)
  | fuel + 1, s =>
    match readToken literal distance src s.pos with
    | .error fault => .error (s, fault)
    | .ok (token, pos) =>
      let s := s.moveTo pos
      match token with
      | .octet b => readSymbols literal distance src fuel (s.put b)
      | .back dist len => readSymbols literal distance src fuel (s.copy dist len)
      | .stop => .ok s

/-- The lengths of the fixed literal code. -/
def fixedLiteral : Code :=
  .ofLengths (List.replicate 144 8 ++ List.replicate 112 9 ++ List.replicate 24 7 ++
    List.replicate 8 8)

/-- The lengths of the fixed distance code. -/
def fixedDistance : Code :=
  .ofLengths (List.replicate 32 5)

/-- The order in which the lengths of the code of lengths are given. -/
def lengthOrder : List Nat :=
  [16, 17, 18, 0, 8, 7, 9, 6, 10, 5, 11, 4, 12, 3, 13, 2, 14, 1, 15]

/-- The lengths of the code of lengths, three bits each; the position after them. -/
def readLengthLengths (src : Bytes) (pos count : Nat) : Except Fault (List Nat × Nat) := do
  let given ← (lengthOrder.take count).zipIdx.mapM fun (sym, i) =>
    match bitsAt src (pos + 3 * i) 3 with
    | some l => .ok (sym, l)
    | none => .error .incomplete
  return ((List.range 19).map fun sym => ((given.find? (·.1 == sym)).map Prod.snd).getD 0,
    pos + 3 * count)

/-- Reads `total` word lengths, runs of one length among them, in reverse. `fuel` bounds the
symbols. -/
def readLengths (code : Code) (src : Bytes) (total : Nat) :
    Nat → Nat → List Nat → Except Fault (List Nat × Nat)
  | 0, _, _ => .error .corrupt
  | fuel + 1, pos, acc =>
    if total ≤ acc.length then
      if acc.length = total then .ok (acc.reverse, pos) else .error .corrupt
    else do
      let (sym, pos) ← code.decode src pos
      if sym < 16 then readLengths code src total fuel pos (sym :: acc)
      else
        let (value, base, bits) ←
          match sym, acc with
          | 16, [] => throw .corrupt
          | 16, last :: _ => pure (last, 3, 2)
          | 17, _ => pure (0, 3, 3)
          | _, _ => pure (0, 11, 7)
        let (count, pos) ← extended src pos (base, bits)
        readLengths code src total fuel pos (List.replicate count value ++ acc)

/-- The two codes that a block describes, and the position after the description. -/
def readCodes (src : Bytes) (pos : Nat) : Except Fault (Code × Code × Nat) := do
  let some header := bitsAt src pos 14 | throw .incomplete
  let literals := header % 32 + 257
  let distances := header / 32 % 32 + 1
  let count := header / 1024 + 4
  let (lengths, pos) ← readLengthLengths src (pos + 14) count
  if 286 < literals || 30 < distances then throw .corrupt
  let code := Code.ofLengths lengths
  if !code.isUsable true then throw .corrupt
  let (all, pos) ← readLengths code src (literals + distances) (literals + distances + 1) pos []
  let literal := Code.ofLengths (all.take literals)
  let distance := Code.ofLengths (all.drop literals)
  if literal.isUsable false && distance.isUsable false then return (literal, distance, pos)
  else throw .corrupt

/-- Reads the stored octets of a block: a length, its complement, and the octets. -/
def readStored (src : Bytes) (s : Inflating) : Except (Inflating × Fault) Inflating :=
  let at0 := nextOctet s.pos
  match littleEndian src at0 2, littleEndian src (at0 + 2) 2 with
  | some len, some check =>
    if len + check = 65535 then (s.moveTo ((at0 + 4) * 8)).copyStored src (at0 + 4) len
    else .error (s, .corrupt)
  | _, _ => .error (s, .incomplete)

/-- Reads one block: its last flag and what follows. -/
def readBlock (src : Bytes) (s : Inflating) : Except (Inflating × Fault) (Bool × Inflating) :=
  match bitsAt src s.pos 3 with
  | none => .error (s, .incomplete)
  | some header =>
    let last := header % 2 == 1
    let s := s.moveTo (s.pos + 3)
    let fuel := src.size * 8 - s.pos + 1
    match header / 2 with
    | 0 => (readStored src s).map fun s => (last, s)
    | 1 => (readSymbols fixedLiteral fixedDistance src fuel s).map fun s => (last, s)
    | 2 =>
      match readCodes src s.pos with
      | .ok (literal, distance, pos) =>
        (readSymbols literal distance src fuel (s.moveTo pos)).map fun s => (last, s)
      | .error fault => .error (s, fault)
    | _ => .error (s, .corrupt)

/-- Reads blocks up to the last; every block takes at least three bits. -/
def readBlocks (src : Bytes) : Nat → Inflating → Except (Inflating × Fault) Inflating
  | 0, s => .error (s, .incomplete)
  | fuel + 1, s =>
    match readBlock src s with
    | .error e => .error e
    | .ok (true, s) => .ok s
    | .ok (false, s) => readBlocks src fuel s

/-- Reads the deflate stream that starts at an octet offset. -/
def inflate (src : Bytes) (at0 : Nat) : Inflated :=
  match readBlocks src (src.size * 8 + 1) ⟨at0 * 8, .empty, 0⟩ with
  | .ok s => ⟨s.out, s.settled, nextOctet s.pos, none⟩
  | .error (s, .incomplete) => ⟨s.out, s.settled, src.size, some .incomplete⟩
  | .error (s, .corrupt) =>
    ⟨s.out.extract 0 s.settled, s.settled, nextOctet s.pos, some .corrupt⟩

end Wirelog.Flate
