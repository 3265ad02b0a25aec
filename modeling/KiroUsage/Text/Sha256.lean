import KiroUsage.Text.Strings
import Mathlib.Algebra.Group.Nat.Defs

/-! The SHA-256 digest and its hexadecimal form. Words are 32-bit vectors and
every loop is structural, so digests of given messages can be computed. -/
namespace Text.Sha256

abbrev Word := BitVec 32

def roundConstants : List Word :=
  [0x428a2f98, 0x71374491, 0xb5c0fbcf, 0xe9b5dba5, 0x3956c25b, 0x59f111f1, 0x923f82a4, 0xab1c5ed5,
    0xd807aa98, 0x12835b01, 0x243185be, 0x550c7dc3, 0x72be5d74, 0x80deb1fe, 0x9bdc06a7, 0xc19bf174,
    0xe49b69c1, 0xefbe4786, 0x0fc19dc6, 0x240ca1cc, 0x2de92c6f, 0x4a7484aa, 0x5cb0a9dc, 0x76f988da,
    0x983e5152, 0xa831c66d, 0xb00327c8, 0xbf597fc7, 0xc6e00bf3, 0xd5a79147, 0x06ca6351, 0x14292967,
    0x27b70a85, 0x2e1b2138, 0x4d2c6dfc, 0x53380d13, 0x650a7354, 0x766a0abb, 0x81c2c92e, 0x92722c85,
    0xa2bfe8a1, 0xa81a664b, 0xc24b8b70, 0xc76c51a3, 0xd192e819, 0xd6990624, 0xf40e3585, 0x106aa070,
    0x19a4c116, 0x1e376c08, 0x2748774c, 0x34b0bcb5, 0x391c0cb3, 0x4ed8aa4a, 0x5b9cca4f, 0x682e6ff3,
    0x748f82ee, 0x78a5636f, 0x84c87814, 0x8cc70208, 0x90befffa, 0xa4506ceb, 0xbef9a3f7, 0xc67178f2]

/-- The eight working variables. -/
structure Working where
  (a b c d e f g h : Word)

def initial : Working :=
  ⟨0x6a09e667, 0xbb67ae85, 0x3c6ef372, 0xa54ff53a, 0x510e527f, 0x9b05688c, 0x1f83d9ab, 0x5be0cd19⟩

def smallSigma0 (x : Word) : Word := x.rotateRight 7 ^^^ x.rotateRight 18 ^^^ (x >>> 3)
def smallSigma1 (x : Word) : Word := x.rotateRight 17 ^^^ x.rotateRight 19 ^^^ (x >>> 10)
def bigSigma0 (x : Word) : Word := x.rotateRight 2 ^^^ x.rotateRight 13 ^^^ x.rotateRight 22
def bigSigma1 (x : Word) : Word := x.rotateRight 6 ^^^ x.rotateRight 11 ^^^ x.rotateRight 25
def choose (x y z : Word) : Word := (x &&& y) ^^^ (~~~x &&& z)
def majority (x y z : Word) : Word := (x &&& y) ^^^ (x &&& z) ^^^ (y &&& z)

/-- Extend the message schedule, kept with its newest word first. -/
def extend : Nat → List Word → List Word
  | 0, schedule => schedule
  | count + 1, schedule =>
    let next := smallSigma1 (schedule.getD 1 0) + schedule.getD 6 0 +
      smallSigma0 (schedule.getD 14 0) + schedule.getD 15 0
    extend count (next :: schedule)

def round (s : Working) (input : Word × Word) : Working :=
  let t₁ := s.h + bigSigma1 s.e + choose s.e s.f s.g + input.1 + input.2
  let t₂ := bigSigma0 s.a + majority s.a s.b s.c
  ⟨t₁ + t₂, s.a, s.b, s.c, s.d + t₁, s.e, s.f, s.g⟩

def Working.add (x y : Working) : Working :=
  ⟨x.a + y.a, x.b + y.b, x.c + y.c, x.d + y.d, x.e + y.e, x.f + y.f, x.g + y.g, x.h + y.h⟩

def compress (s : Working) (block : List Word) : Working :=
  s.add ((roundConstants.zip (extend 48 block.reverse).reverse).foldl round s)

/-- The last `count` bytes of a number, most significant first. -/
def bytesOf : Nat → Nat → List UInt8
  | 0, _ => []
  | count + 1, n => UInt8.ofNat (n / 256 ^ count) :: bytesOf count n

def pad (message : List UInt8) : List UInt8 :=
  message ++ 0x80 :: List.replicate ((119 - message.length % 64) % 64) 0 ++
    bytesOf 8 (message.length * 8)

def words : List UInt8 → List Word
  | a :: b :: c :: d :: rest =>
    BitVec.ofNat 32 (((a.toNat * 256 + b.toNat) * 256 + c.toNat) * 256 + d.toNat) :: words rest
  | _ => []

def compressBlocks : Nat → List Word → Working → Working
  | 0, _, s => s
  | count + 1, input, s => compressBlocks count (input.drop 16) (compress s (input.take 16))

def Working.bytes (s : Working) : List UInt8 :=
  [s.a, s.b, s.c, s.d, s.e, s.f, s.g, s.h].flatMap fun word => bytesOf 4 word.toNat

/-- `SHA256.HashData`. -/
def hashData (message : List UInt8) : List UInt8 :=
  let input := words (pad message)
  (compressBlocks (input.length / 16) input initial).bytes

@[simp] theorem bytesOf_length (count n : Nat) : (bytesOf count n).length = count := by
  induction count with
  | zero => rfl
  | succ count ih => simp [bytesOf, ih]

@[simp] theorem hashData_length (message : List UInt8) : (hashData message).length = 32 := by
  simp [hashData, Working.bytes]

end Sha256

/-- `Encoding.UTF8.GetBytes`. -/
def utf8Bytes (s : Str) : List UInt8 := s.flatMap String.utf8EncodeChar

def lowerHexDigit (n : Nat) : Char :=
  ['0', '1', '2', '3', '4', '5', '6', '7', '8', '9', 'a', 'b', 'c', 'd', 'e', 'f'].getD n '0'

/-- `Convert.ToHexStringLower`. -/
def toHexStringLower (bytes : List UInt8) : Str :=
  bytes.flatMap fun byte => [lowerHexDigit (byte.toNat / 16), lowerHexDigit (byte.toNat % 16)]

@[simp] theorem toHexStringLower_length (bytes : List UInt8) :
    (toHexStringLower bytes).length = 2 * bytes.length := by
  induction bytes with
  | nil => rfl
  | cons byte rest ih =>
      simp only [toHexStringLower] at ih
      simp [toHexStringLower, ih]
      omega

theorem lowerHexDigit_ne_slash (n : Nat) : lowerHexDigit n ≠ '/' := by
  have hMem : lowerHexDigit n ∈
      ['0', '1', '2', '3', '4', '5', '6', '7', '8', '9', 'a', 'b', 'c', 'd', 'e', 'f'] := by
    unfold lowerHexDigit
    rw [List.getD_eq_getElem?_getD]
    cases h : (['0', '1', '2', '3', '4', '5', '6', '7', '8', '9', 'a', 'b', 'c', 'd', 'e', 'f'] :
        Str)[n]? with
    | none => simp
    | some c => exact List.mem_of_getElem? h
  intro h
  rw [h] at hMem
  revert hMem
  decide

theorem slash_not_mem_toHexStringLower (bytes : List UInt8) : '/' ∉ toHexStringLower bytes := by
  intro h
  obtain ⟨byte, _, hDigit⟩ := List.mem_flatMap.mp h
  simp only [List.mem_cons, List.not_mem_nil, or_false] at hDigit
  rcases hDigit with hDigit | hDigit
  · exact lowerHexDigit_ne_slash _ hDigit.symm
  · exact lowerHexDigit_ne_slash _ hDigit.symm

/-- The digest of the empty message. -/
example : (toHexStringLower (Sha256.hashData [])).take 8 = ['e', '3', 'b', '0', 'c', '4', '4', '2'] := by
  decide +kernel

end Text
