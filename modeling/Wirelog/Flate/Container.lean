import Wirelog.Flate.Inflate
import Wirelog.Flate.Checksum
/-!
Containers around deflate streams: gzip with any number of members, and zlib. Decoding gives the
octets that are handed over and, when the container is damaged, what is wrong with it.
-/
namespace Wirelog.Flate

/-- What is wrong with a container. -/
inductive Damage where
  /-- The stream inside cannot be one. -/
  | corruptStream
  /-- The stream inside does not end. -/
  | incompleteStream
  /-- A header or trailer is cut off. -/
  | unexpectedEnd
  /-- A header is none. -/
  | badHeader
  /-- A name or comment in a header does not end in time. -/
  | longField
  /-- The check value or the length does not fit the octets. -/
  | checksum
deriving DecidableEq, Inhabited

namespace Damage

/-- The damage that a fault of the stream inside means. -/
def ofFault : Fault → Damage
  | .corrupt => .corruptStream
  | .incomplete => .incompleteStream

/-- The wording that reports use. -/
def message : Damage → String
  | corruptStream => "corrupt deflate stream"
  | incompleteStream => "incomplete deflate stream"
  | unexpectedEnd => "unexpected end of file"
  | badHeader => "invalid gzip header"
  | longField => "gzip header field too long"
  | checksum => "corrupt gzip stream does not have a matching checksum"

end Damage

/-- Decoded octets, and the damage that ended them. -/
structure Decoded where
  /-- The octets handed over. -/
  out : Bytes
  /-- What came after them, if not the end. -/
  damage : Option Damage
deriving Inhabited

/-- A raw deflate stream; what follows it is not looked at. -/
def decodeRaw (src : Bytes) : Decoded :=
  let s := inflate src 0
  ⟨s.out, s.fault.map Damage.ofFault⟩

/-- A zlib container: a two-octet header divisible by 31 without a preset dictionary, a stream, and
the running sums of its output. A wrong sum is found together with the end of the stream, and takes
back its last batch. -/
def decodeZlib (src : Bytes) : Decoded :=
  match src[0]?, src[1]? with
  | some method, some flags =>
    if method.toNat % 16 != 8 || 7 < method.toNat / 16 || flags.toNat / 32 % 2 == 1 ||
        (method.toNat * 256 + flags.toNat) % 31 != 0 then
      ⟨.empty, some .corruptStream⟩
    else
      let s := inflate src 2
      match s.fault with
      | some fault => ⟨s.out, some (.ofFault fault)⟩
      | none =>
        if src.size < s.after + 4 then ⟨s.out, some .incompleteStream⟩
        else
          let sum := (src.extract s.after (s.after + 4)).foldl (fun n b => n * 256 + b.toNat) 0
          if sum = adler32 s.out then ⟨s.out, none⟩
          else ⟨s.out.extract 0 s.settled, some .corruptStream⟩
  | _, _ => ⟨.empty, some .incompleteStream⟩

/-- The longest name or comment that a gzip header may hold. -/
def maxField : Nat := 65535

/-- Skips a field that ends with a zero octet: the offset after that octet. `fuel` bounds its
length by that of the input. -/
def skipField (src : Bytes) (start : Nat) : Nat → Nat → Except Damage Nat
  | 0, _ => .error .unexpectedEnd
  | fuel + 1, at0 =>
    match src[at0]? with
    | none => .error .unexpectedEnd
    | some 0 => .ok (at0 + 1)
    | some _ =>
      if at0 - start = maxField then .error .longField else skipField src start fuel (at0 + 1)

/-- The offset after the gzip header at an offset. -/
def skipHeader (src : Bytes) (start : Nat) : Except Damage Nat := do
  if src.size < start + 10 then throw .unexpectedEnd
  let octet (i : Nat) : Nat := (src[start + i]?.getD 0).toNat
  let flags := octet 3
  if octet 0 != 0x1F || octet 1 != 0x8B || octet 2 != 8 || 32 ≤ flags then throw .badHeader
  let has (bit : Nat) : Bool := flags / bit % 2 == 1
  let mut at0 := start + 10
  if has 4 then
    let some len := littleEndian src at0 2 | throw .unexpectedEnd
    at0 := at0 + 2 + len
    if src.size < at0 then throw .unexpectedEnd
  if has 8 then at0 ← skipField src at0 (src.size + 1) at0
  if has 16 then at0 ← skipField src at0 (src.size + 1) at0
  if has 2 then
    let some check := littleEndian src at0 2 | throw .unexpectedEnd
    if check != (crc32 (src.extract start at0)).toNat % 65536 then throw .checksum
    at0 := at0 + 2
  return at0

/-- Reads members until the input ends; every member takes octets, so `fuel` is their number. -/
def readMembers (src : Bytes) : Nat → Nat → Bytes → Decoded
  | 0, _, out => ⟨out, none⟩
  | fuel + 1, start, out =>
    match skipHeader src start with
    | .error damage => ⟨out, some damage⟩
    | .ok body =>
      let s := inflate src body
      let all := out ++ s.out
      match s.fault with
      | some fault => ⟨all, some (.ofFault fault)⟩
      | none =>
        match littleEndian src s.after 4, littleEndian src (s.after + 4) 4 with
        | some check, some size =>
          if check != (crc32 s.out).toNat || size != s.out.size % UInt32.size then
            ⟨all, some .checksum⟩
          else if s.after + 8 < src.size then readMembers src fuel (s.after + 8) all
          else ⟨all, none⟩
        | _, _ => ⟨all, some .unexpectedEnd⟩

/-- A gzip container: members one after another up to the end of the input. -/
def decodeGzip (src : Bytes) : Decoded :=
  readMembers src (src.size + 1) 0 .empty

end Wirelog.Flate
