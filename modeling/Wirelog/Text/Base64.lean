import Wirelog.Bytes
/-!
Base64 with the standard alphabet and padding. Main statement: `decode_encode`, reading back what
was written gives the octets again.
-/
namespace Wirelog.Text.Base64

/-- The digit of a value below 64. -/
def digit (n : Nat) : Char :=
  if n < 26 then Char.ofNat (65 + n)
  else if n < 52 then Char.ofNat (71 + n)
  else if n < 62 then Char.ofNat (n - 4)
  else if n = 62 then '+' else '/'

/-- The value of a digit. -/
def value? (c : Char) : Option Nat :=
  let n := c.toNat
  if 65 ≤ n ∧ n ≤ 90 then some (n - 65)
  else if 97 ≤ n ∧ n ≤ 122 then some (n - 71)
  else if 48 ≤ n ∧ n ≤ 57 then some (n + 4)
  else if c = '+' then some 62
  else if c = '/' then some 63
  else none

/-- Three octets make four digits; one or two left over are padded with `=`. -/
def encodeOctets : List UInt8 → List Char
  | [] => []
  | [a] => [digit (a.toNat / 4), digit (a.toNat % 4 * 16), '=', '=']
  | [a, b] =>
    [digit (a.toNat / 4), digit (a.toNat % 4 * 16 + b.toNat / 16), digit (b.toNat % 16 * 4), '=']
  | a :: b :: c :: rest =>
    digit (a.toNat / 4) :: digit (a.toNat % 4 * 16 + b.toNat / 16) ::
      digit (b.toNat % 16 * 4 + c.toNat / 64) :: digit (c.toNat % 64) :: encodeOctets rest

/-- Reads groups of four digits; padding may end the text only, and spare bits must be zero. -/
def decodeOctets : List Char → Option (List UInt8)
  | [] => some []
  | [a, b, '=', '='] => do
    let x ← value? a
    let y ← value? b
    if y % 16 = 0 then some [UInt8.ofNat (x * 4 + y / 16)] else none
  | [a, b, c, '='] => do
    let x ← value? a
    let y ← value? b
    let z ← value? c
    if z % 4 = 0 then
      some [UInt8.ofNat (x * 4 + y / 16), UInt8.ofNat (y % 16 * 16 + z / 4)]
    else none
  | a :: b :: c :: d :: rest => do
    let x ← value? a
    let y ← value? b
    let z ← value? c
    let w ← value? d
    let more ← decodeOctets rest
    some (UInt8.ofNat (x * 4 + y / 16) :: UInt8.ofNat (y % 16 * 16 + z / 4) ::
      UInt8.ofNat (z % 4 * 64 + w) :: more)
  | _ => none

theorem value?_digit {n : Nat} (h : n < 64) : value? (digit n) = some n := by
  have all : ∀ i : Fin 64, value? (digit i) = some i.val := by decide
  exact all ⟨n, h⟩

theorem digit_ne_pad {n : Nat} (h : n < 64) : digit n ≠ '=' := by
  have all : ∀ i : Fin 64, digit i ≠ '=' := by decide
  exact all ⟨n, h⟩

/-- An octet is known by its number. -/
theorem ofNat_eq_of {n : Nat} {a : UInt8} (h : n = a.toNat) : UInt8.ofNat n = a := by
  rw [h, UInt8.ofNat_toNat]

/-- Reading gives back what was written. -/
theorem decodeOctets_encodeOctets (l : List UInt8) : decodeOctets (encodeOctets l) = some l := by
  induction l using encodeOctets.induct with
  | case1 => rfl
  | case2 a =>
    have ha := a.toNat_lt
    have hx : a.toNat / 4 < 64 := by omega
    have hy : a.toNat % 4 * 16 < 64 := by omega
    rw [encodeOctets, decodeOctets, value?_digit hx, value?_digit hy]
    simp only [Option.bind_eq_bind, Option.bind_some]
    rw [if_pos (by omega), ofNat_eq_of (a := a) (by omega)]
  | case3 a b =>
    have ha := a.toNat_lt
    have hb := b.toNat_lt
    have hx : a.toNat / 4 < 64 := by omega
    have hy : a.toNat % 4 * 16 + b.toNat / 16 < 64 := by omega
    have hz : b.toNat % 16 * 4 < 64 := by omega
    rw [encodeOctets, decodeOctets, value?_digit hx, value?_digit hy, value?_digit hz]
    · simp only [Option.bind_eq_bind, Option.bind_some]
      rw [if_pos (by omega), ofNat_eq_of (a := a) (by omega), ofNat_eq_of (a := b) (by omega)]
    · exact fun h => absurd h (digit_ne_pad hz)
  | case4 a b c rest ih =>
    have ha := a.toNat_lt
    have hb := b.toNat_lt
    have hc := c.toNat_lt
    have hx : a.toNat / 4 < 64 := by omega
    have hy : a.toNat % 4 * 16 + b.toNat / 16 < 64 := by omega
    have hz : b.toNat % 16 * 4 + c.toNat / 64 < 64 := by omega
    have hw : c.toNat % 64 < 64 := by omega
    rw [encodeOctets, decodeOctets, value?_digit hx, value?_digit hy, value?_digit hz,
      value?_digit hw, ih]
    · simp only [Option.bind_eq_bind, Option.bind_some]
      rw [ofNat_eq_of (a := a) (by omega), ofNat_eq_of (a := b) (by omega),
        ofNat_eq_of (a := c) (by omega)]
    · exact fun _ h => absurd h (digit_ne_pad hw)
    · exact fun h => absurd h (digit_ne_pad hw)

/-- The Base64 text of octets. -/
def encode (b : Bytes) : String :=
  String.ofList (encodeOctets b.octets)

/-- The octets that a Base64 text stands for. -/
def decode (s : String) : Option Bytes :=
  (decodeOctets s.toList).map Bytes.ofOctets

theorem decode_encode (b : Bytes) : decode (encode b) = some b := by
  simp [decode, encode, decodeOctets_encodeOctets]

end Wirelog.Text.Base64
