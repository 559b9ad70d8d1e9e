import Mathlib.Algebra.Group.Nat.Defs
import Mathlib.Logic.Basic

/-! # SHA-256

    The hash as a function on byte strings, computed by structural recursion
    so that it can be evaluated.  Only its value matters to the development;
    no property of the hash is assumed or proved.
-/

namespace Sha256

/-- A 32-bit word. -/
abbrev Word : Type := BitVec 32

/-- The round constants. -/
def roundConstants : List Word :=
  [0x428a2f98, 0x71374491, 0xb5c0fbcf, 0xe9b5dba5, 0x3956c25b, 0x59f111f1, 0x923f82a4, 0xab1c5ed5,
   0xd807aa98, 0x12835b01, 0x243185be, 0x550c7dc3, 0x72be5d74, 0x80deb1fe, 0x9bdc06a7, 0xc19bf174,
   0xe49b69c1, 0xefbe4786, 0x0fc19dc6, 0x240ca1cc, 0x2de92c6f, 0x4a7484aa, 0x5cb0a9dc, 0x76f988da,
   0x983e5152, 0xa831c66d, 0xb00327c8, 0xbf597fc7, 0xc6e00bf3, 0xd5a79147, 0x06ca6351, 0x14292967,
   0x27b70a85, 0x2e1b2138, 0x4d2c6dfc, 0x53380d13, 0x650a7354, 0x766a0abb, 0x81c2c92e, 0x92722c85,
   0xa2bfe8a1, 0xa81a664b, 0xc24b8b70, 0xc76c51a3, 0xd192e819, 0xd6990624, 0xf40e3585, 0x106aa070,
   0x19a4c116, 0x1e376c08, 0x2748774c, 0x34b0bcb5, 0x391c0cb3, 0x4ed8aa4a, 0x5b9cca4f, 0x682e6ff3,
   0x748f82ee, 0x78a5636f, 0x84c87814, 0x8cc70208, 0x90befffa, 0xa4506ceb, 0xbef9a3f7, 0xc67178f2]

/-- The eight chaining words. -/
structure State where
  a : Word
  b : Word
  c : Word
  d : Word
  e : Word
  f : Word
  g : Word
  h : Word

/-- The initial chaining value. -/
def initial : State :=
  ⟨0x6a09e667, 0xbb67ae85, 0x3c6ef372, 0xa54ff53a, 0x510e527f, 0x9b05688c, 0x1f83d9ab, 0x5be0cd19⟩

/-- Rotate right. -/
def rotr (x : Word) (n : Nat) : Word := (x >>> n) ||| (x <<< (32 - n))

/-- The next message word from the window of the last sixteen. -/
def schedule (w : List Word) : Word :=
  let x := w.getD 1 0
  let y := w.getD 14 0
  (rotr y 17 ^^^ rotr y 19 ^^^ (y >>> 10)) + w.getD 9 0 +
    (rotr x 7 ^^^ rotr x 18 ^^^ (x >>> 3)) + w.getD 0 0

/-- One round with message word `w` and constant `k`. -/
def round (s : State) (w k : Word) : State :=
  let s1 := rotr s.e 6 ^^^ rotr s.e 11 ^^^ rotr s.e 25
  let ch := (s.e &&& s.f) ^^^ ((~~~ s.e) &&& s.g)
  let t1 := s.h + s1 + ch + k + w
  let s0 := rotr s.a 2 ^^^ rotr s.a 13 ^^^ rotr s.a 22
  let maj := (s.a &&& s.b) ^^^ (s.a &&& s.c) ^^^ (s.b &&& s.c)
  ⟨t1 + (s0 + maj), s.a, s.b, s.c, s.d + t1, s.e, s.f, s.g⟩

/-- All rounds of one block; the window slides over the message schedule. -/
def rounds : List Word → List Word → State → State
  | [], _, s => s
  | k :: ks, w, s => rounds ks (w.tail ++ [schedule w]) (round s (w.getD 0 0) k)

/-- Compress one block of sixteen words. -/
def compress (s : State) (block : List Word) : State :=
  let r := rounds roundConstants block s
  ⟨s.a + r.a, s.b + r.b, s.c + r.c, s.d + r.d, s.e + r.e, s.f + r.f, s.g + r.g, s.h + r.h⟩

/-- Big-endian words of a list of byte values. -/
def words : List Nat → List Word
  | a :: b :: c :: d :: r => BitVec.ofNat 32 (((a * 256 + b) * 256 + c) * 256 + d) :: words r
  | _ => []

/-- The padding after a message of `n` bytes: a one bit, zeros, and the
    length in bits. -/
def padding (n : Nat) : List Nat :=
  128 :: (List.replicate ((119 - n % 64) % 64) 0 ++
    (List.range 8).map fun i => n * 8 / 256 ^ (7 - i) % 256)

/-- Compress `n` blocks in turn. -/
def blocks : Nat → List Word → State → State
  | 0, _, s => s
  | n + 1, ws, s => blocks n (ws.drop 16) (compress s (ws.take 16))

/-- Eight hexadecimal digits. -/
def hex8 (w : Word) : List Char :=
  (List.range 8).map fun i => (w.toNat / 16 ^ (7 - i) % 16).digitChar

/-- `hashlib.sha256(b).hexdigest()`. -/
def hexdigest (b : ByteArray) : String :=
  let msg := b.data.toList.map UInt8.toNat
  let ws := words (msg ++ padding msg.length)
  let s := blocks (ws.length / 16) ws initial
  String.ofList (hex8 s.a ++ hex8 s.b ++ hex8 s.c ++ hex8 s.d ++ hex8 s.e ++ hex8 s.f ++
    hex8 s.g ++ hex8 s.h)

example : hexdigest "abc".toUTF8 =
    "ba7816bf8f01cfea414140de5dae2223b00361a396177a9cb410ff61f20015ad" := by
  decide +kernel

end Sha256
