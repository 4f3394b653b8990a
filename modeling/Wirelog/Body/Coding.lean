import Wirelog.Flate.Container
import Wirelog.Text.Ascii
import Wirelog.Text.Blank
/-!
Undoing a `Content-Encoding` under a limit. No result is longer than the limit; of a longer body the
front is kept and marked as truncated, and damage behind it goes unnoticed.
-/
namespace Wirelog.Body

/-- `Decoded`: a body with its encoding undone. -/
structure Plain where
  /-- The octets, at most as many as the limit allows unless nothing was encoded. -/
  bytes : Bytes
  /-- There were more octets than the limit allows. -/
  truncated : Bool

/-- Why an encoding cannot be undone. -/
inductive CodingError where
  /-- The encoding is not known; it is named in lower case. -/
  | unsupported (encoding : String)
  /-- A gzip body is damaged. -/
  | gzip (damage : Flate.Damage)
  /-- A deflate body is damaged. -/
  | deflate (damage : Flate.Damage)
deriving DecidableEq

/-- The wording that reports use. -/
def CodingError.message : CodingError → String
  | unsupported encoding => "unsupported content encoding '" ++ encoding ++ "'"
  | gzip damage => "gzip decode failed: " ++ damage.message
  | deflate damage => "deflate decode failed: " ++ damage.message

/-- `read_limited`: cuts decoded octets at a limit. One octet beyond it is read, which is how
truncation is noticed; damage counts only when it comes before that octet. -/
def within (limit : Nat) (d : Flate.Decoded) : Except Flate.Damage Plain :=
  if limit < d.out.size then .ok ⟨d.out.extract 0 limit, true⟩
  else match d.damage with
    | some damage => .error damage
    | none => .ok ⟨d.out, false⟩

/-- Undoes deflate, which comes in a zlib container or bare. The bare reading is tried when the
other fails, and its damage is the one reported. -/
def undeflate (limit : Nat) (body : Bytes) : Except Flate.Damage Plain :=
  match within limit (Flate.decodeZlib body) with
  | .ok plain => .ok plain
  | .error _ => within limit (Flate.decodeRaw body)

/-- `decompress`: undoes an encoding. A missing, empty or `identity` encoding leaves the body as it
is, whatever the limit. -/
def decompress (encoding : Option String) (body : Bytes) (limit : Nat) :
    Except CodingError Plain :=
  match encoding.map fun e => Text.asciiLower (Text.trim e) with
  | none | some "" | some "identity" => .ok ⟨body, false⟩
  | some "gzip" | some "x-gzip" => (within limit (Flate.decodeGzip body)).mapError .gzip
  | some "deflate" => (undeflate limit body).mapError .deflate
  | some other => .error (.unsupported other)

/-- `MAX_DECODED_BODY`: the most octets of a recorded body once its encoding is undone. -/
def maxDecoded : Nat :=
  32 * 1024 * 1024

end Wirelog.Body
