import Mathlib.Logic.Basic

/-! # Base64

    The standard alphabet with padding.  The decoder is the strict one: no
    character outside the alphabet, and padding only where the last group
    needs it.  Bits that the padding makes unused are dropped.
-/

namespace Base64

/-! ## Section 1: Alphabet -/

/-- The character of a six-bit value. -/
def digit (n : Nat) : Char :=
  if n < 26 then Char.ofNat (65 + n)
  else if n < 52 then Char.ofNat (97 + (n - 26))
  else if n < 62 then Char.ofNat (48 + (n - 52))
  else if n = 62 then '+'
  else '/'

/-- The six-bit value of a character of the alphabet. -/
def value? (c : Char) : Option Nat :=
  if 'A' ≤ c ∧ c ≤ 'Z' then some (c.toNat - 65)
  else if 'a' ≤ c ∧ c ≤ 'z' then some (c.toNat - 97 + 26)
  else if '0' ≤ c ∧ c ≤ '9' then some (c.toNat - 48 + 52)
  else if c = '+' then some 62
  else if c = '/' then some 63
  else none

theorem value?_digit {n : Nat} (h : n < 64) : value? (digit n) = some n := by
  revert n
  decide

theorem digit_ne_pad {n : Nat} (h : n < 64) : digit n ≠ '=' := by
  revert n
  decide

/-! ## Section 2: Groups -/

/-- Encode bytes in groups of three. -/
def encodeBytes : List UInt8 → List Char
  | [] => []
  | [a] => [digit (a.toNat / 4), digit (a.toNat % 4 * 16), '=', '=']
  | [a, b] =>
    [digit (a.toNat / 4), digit (a.toNat % 4 * 16 + b.toNat / 16), digit (b.toNat % 16 * 4), '=']
  | a :: b :: c :: r =>
    digit (a.toNat / 4) :: digit (a.toNat % 4 * 16 + b.toNat / 16) ::
      digit (b.toNat % 16 * 4 + c.toNat / 64) :: digit (c.toNat % 64) :: encodeBytes r

/-- The byte of a value below 256. -/
def octet (n : Nat) : UInt8 := UInt8.ofNat n

theorem octet_of_eq {n : Nat} {a : UInt8} (h : n = a.toNat) : octet n = a := by
  rw [h, octet]
  exact UInt8.ofNat_toNat

/-- The bytes of a group of four characters, if the group is well formed.
    Only the last group may be padded. -/
def decodeGroup (last : Bool) (a b c d : Char) : Option (List UInt8) := do
  let w ← value? a
  let x ← value? b
  let first := octet (w * 4 + x / 16)
  if last && c == '=' && d == '=' then return [first]
  let y ← value? c
  let second := octet (x % 16 * 16 + y / 4)
  if last && d == '=' then return [first, second]
  let z ← value? d
  return [first, second, octet (y % 4 * 64 + z)]

/-- Decode groups of four characters. -/
def decodeChars : List Char → Option (List UInt8)
  | [] => some []
  | a :: b :: c :: d :: r => do
    let group ← decodeGroup (decide (r = [])) a b c d
    let rest ← decodeChars r
    return group ++ rest
  | _ => none

/-- Decoding inverts encoding. -/
theorem decodeChars_encodeBytes (bs : List UInt8) : decodeChars (encodeBytes bs) = some bs := by
  fun_induction encodeBytes bs with
  | case1 => rfl
  | case2 a =>
    have ha := a.toNat_lt
    have h1 := value?_digit (show a.toNat / 4 < 64 by omega)
    have h2 := value?_digit (show a.toNat % 4 * 16 < 64 by omega)
    simp [decodeChars, decodeGroup, h1, h2]
    exact octet_of_eq (by omega)
  | case3 a b =>
    have ha := a.toNat_lt
    have hb := b.toNat_lt
    have h1 := value?_digit (show a.toNat / 4 < 64 by omega)
    have h2 := value?_digit (show a.toNat % 4 * 16 + b.toNat / 16 < 64 by omega)
    have h3 := value?_digit (show b.toNat % 16 * 4 < 64 by omega)
    have hpad := digit_ne_pad (show b.toNat % 16 * 4 < 64 by omega)
    simp [decodeChars, decodeGroup, h1, h2, h3, hpad]
    exact ⟨octet_of_eq (by omega), octet_of_eq (by omega)⟩
  | case4 a b c r ih =>
    have ha := a.toNat_lt
    have hb := b.toNat_lt
    have hc := c.toNat_lt
    have h1 := value?_digit (show a.toNat / 4 < 64 by omega)
    have h2 := value?_digit (show a.toNat % 4 * 16 + b.toNat / 16 < 64 by omega)
    have h3 := value?_digit (show b.toNat % 16 * 4 + c.toNat / 64 < 64 by omega)
    have h4 := value?_digit (show c.toNat % 64 < 64 by omega)
    have hpad3 := digit_ne_pad (show b.toNat % 16 * 4 + c.toNat / 64 < 64 by omega)
    have hpad4 := digit_ne_pad (show c.toNat % 64 < 64 by omega)
    simp [decodeChars, decodeGroup, h1, h2, h3, h4, hpad3, hpad4, ih]
    exact ⟨octet_of_eq (by omega), octet_of_eq (by omega), octet_of_eq (by omega)⟩

/-! ## Section 3: Byte strings and texts -/

/-- `base64.b64encode(value).decode("ascii")`. -/
def encode (b : ByteArray) : String := String.ofList (encodeBytes b.data.toList)

/-- `base64.b64decode(value, validate=True)`. -/
def decode (s : String) : Option ByteArray :=
  (decodeChars s.toList).map fun bs => ⟨bs.toArray⟩

/-- **Round trip**. -/
theorem decode_encode (b : ByteArray) : decode (encode b) = some b := by
  rw [decode, encode, String.toList_ofList, decodeChars_encodeBytes]
  rfl

theorem encode_ne_empty {b : ByteArray} (h : b.size ≠ 0) : encode b ≠ "" := by
  intro he
  have hd := decode_encode b
  rw [he] at hd
  have hb : b = ⟨#[]⟩ := (Option.some.inj hd).symm
  rw [hb] at h
  exact h rfl

end Base64
