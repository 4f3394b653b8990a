import Wirelog.Bytes
/-!
The two check values of compressed formats: the cyclic redundancy check of gzip and the running sums
of zlib.
-/
namespace Wirelog.Flate

/-- One bit of the cyclic redundancy check, reflected. -/
def crcShift (c : UInt32) : UInt32 :=
  if c &&& 1 == 1 then (0xEDB88320 : UInt32) ^^^ (c >>> 1) else c >>> 1

/-- The check value of a single octet. -/
def crcOctet (n : Nat) : UInt32 :=
  crcShift (crcShift (crcShift (crcShift (crcShift (crcShift (crcShift (crcShift
    (UInt32.ofNat n))))))))

/-- The check values of all octets. -/
def crcTable : Array UInt32 :=
  ((List.range 256).map crcOctet).toArray

/-- Takes one octet into a running check value. -/
def crcStep (c : UInt32) (b : UInt8) : UInt32 :=
  crcTable.getD ((c ^^^ b.toUInt32) &&& 0xFF).toNat 0 ^^^ (c >>> 8)

/-- The cyclic redundancy check of octets. -/
def crc32 (b : Bytes) : UInt32 :=
  b.foldl crcStep (0xFFFFFFFF : UInt32) ^^^ (0xFFFFFFFF : UInt32)

/-- Takes one octet into the running sums. -/
def adlerStep (s : UInt32 × UInt32) (b : UInt8) : UInt32 × UInt32 :=
  let a := (s.1 + b.toUInt32) % 65521
  (a, (s.2 + a) % 65521)

/-- The running sums of octets, the second above the first. -/
def adler32 (b : Bytes) : Nat :=
  let s := b.foldl adlerStep (1, 0)
  s.2.toNat * 65536 + s.1.toNat

end Wirelog.Flate
