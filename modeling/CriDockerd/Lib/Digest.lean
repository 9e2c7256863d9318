import Mathlib.Data.List.GetD

/-! SHA-256 and FNV-1a over byte lists, the standard base32 encoding, and base64 for URLs. Words are `UInt32`, so the additions
    of the compression function wrap as the standard asks. -/

namespace Digest

/-! ### SHA-256 -/

/-- The first 32 bits of the fractional parts of the cube roots of the first 64 primes. -/
def roundConstants : List UInt32 :=
  [0x428a2f98, 0x71374491, 0xb5c0fbcf, 0xe9b5dba5, 0x3956c25b, 0x59f111f1, 0x923f82a4, 0xab1c5ed5,
   0xd807aa98, 0x12835b01, 0x243185be, 0x550c7dc3, 0x72be5d74, 0x80deb1fe, 0x9bdc06a7, 0xc19bf174,
   0xe49b69c1, 0xefbe4786, 0x0fc19dc6, 0x240ca1cc, 0x2de92c6f, 0x4a7484aa, 0x5cb0a9dc, 0x76f988da,
   0x983e5152, 0xa831c66d, 0xb00327c8, 0xbf597fc7, 0xc6e00bf3, 0xd5a79147, 0x06ca6351, 0x14292967,
   0x27b70a85, 0x2e1b2138, 0x4d2c6dfc, 0x53380d13, 0x650a7354, 0x766a0abb, 0x81c2c92e, 0x92722c85,
   0xa2bfe8a1, 0xa81a664b, 0xc24b8b70, 0xc76c51a3, 0xd192e819, 0xd6990624, 0xf40e3585, 0x106aa070,
   0x19a4c116, 0x1e376c08, 0x2748774c, 0x34b0bcb5, 0x391c0cb3, 0x4ed8aa4a, 0x5b9cca4f, 0x682e6ff3,
   0x748f82ee, 0x78a5636f, 0x84c87814, 0x8cc70208, 0x90befffa, 0xa4506ceb, 0xbef9a3f7, 0xc67178f2]

/-- The eight working variables. -/
structure Chaining where
  (a b c d e f g h : UInt32)
  deriving DecidableEq, Repr

/-- The first 32 bits of the fractional parts of the square roots of the first 8 primes. -/
def Chaining.initial : Chaining :=
  ⟨0x6a09e667, 0xbb67ae85, 0x3c6ef372, 0xa54ff53a, 0x510e527f, 0x9b05688c, 0x1f83d9ab, 0x5be0cd19⟩

def Chaining.add (x y : Chaining) : Chaining :=
  ⟨x.a + y.a, x.b + y.b, x.c + y.c, x.d + y.d, x.e + y.e, x.f + y.f, x.g + y.g, x.h + y.h⟩

def Chaining.words (x : Chaining) : List UInt32 := [x.a, x.b, x.c, x.d, x.e, x.f, x.g, x.h]

def rotr (x n : UInt32) : UInt32 := (x >>> n) ||| (x <<< (32 - n))

def bigSigma0 (x : UInt32) : UInt32 := rotr x 2 ^^^ rotr x 13 ^^^ rotr x 22
def bigSigma1 (x : UInt32) : UInt32 := rotr x 6 ^^^ rotr x 11 ^^^ rotr x 25
def smallSigma0 (x : UInt32) : UInt32 := rotr x 7 ^^^ rotr x 18 ^^^ (x >>> 3)
def smallSigma1 (x : UInt32) : UInt32 := rotr x 17 ^^^ rotr x 19 ^^^ (x >>> 10)

def choose (x y z : UInt32) : UInt32 := (x &&& y) ^^^ (~~~x &&& z)
def majority (x y z : UInt32) : UInt32 := (x &&& y) ^^^ (x &&& z) ^^^ (y &&& z)

/-- The next word of the message schedule, from the sixteen words before it. -/
def nextWord (window : List UInt32) : UInt32 :=
  smallSigma1 (window.getD 14 0) + window.getD 9 0 + smallSigma0 (window.getD 1 0) + window.getD 0 0

def round (s : Chaining) (k w : UInt32) : Chaining :=
  let t1 := s.h + bigSigma1 s.e + choose s.e s.f s.g + k + w
  let t2 := bigSigma0 s.a + majority s.a s.b s.c
  ⟨t1 + t2, s.a, s.b, s.c, s.d + t1, s.e, s.f, s.g⟩

/-- One round for each constant; `window` holds the schedule words of this round and the fifteen
    after it. -/
def rounds : List UInt32 → List UInt32 → Chaining → Chaining
  | [], _, s => s
  | k :: ks, window, s =>
    rounds ks (window.drop 1 ++ [nextWord window]) (round s k (window.getD 0 0))

/-- The big-endian words of a block. -/
def toWords : List UInt8 → List UInt32
  | a :: b :: c :: d :: rest =>
    ((a.toUInt32 <<< 24) ||| (b.toUInt32 <<< 16) ||| (c.toUInt32 <<< 8) ||| d.toUInt32) :: toWords rest
  | _ => []

def compress (s : Chaining) (block : List UInt8) : Chaining :=
  s.add (rounds roundConstants (toWords block) s)

/-- A one bit, zeros up to eight bytes short of a whole block, and the length in bits. -/
def pad (message : List UInt8) : List UInt8 :=
  let zeros : List UInt8 := List.replicate ((119 - message.length % 64) % 64) 0
  let bits := 8 * message.length
  let length : List UInt8 := (List.range 8).map fun i => UInt8.ofNat (bits >>> (8 * (7 - i)))
  message ++ 0x80 :: zeros ++ length

/-- Folds the compression function over the 64-byte blocks of a padded message. -/
def blocks : Nat → List UInt8 → Chaining → Chaining
  | 0, _, s => s
  | n + 1, bytes, s => blocks n (bytes.drop 64) (compress s (bytes.take 64))

def ofWord (w : UInt32) : List UInt8 :=
  [(w >>> 24).toUInt8, (w >>> 16).toUInt8, (w >>> 8).toUInt8, w.toUInt8]

def sha256 (message : List UInt8) : List UInt8 :=
  let padded := pad message
  (blocks (padded.length / 64) padded Chaining.initial).words.flatMap ofWord

/-! ### Base32 -/

def base32Alphabet : List Char := "ABCDEFGHIJKLMNOPQRSTUVWXYZ234567".toList

def base32Digit (n : Nat) : Char := base32Alphabet.getD (n % 32) 'A'

/-- The eight digits of the 40-bit number `n`. -/
def base32Quantum (n : Nat) : List Char := (List.range 8).map fun i => base32Digit (n >>> (5 * (7 - i)))

/-- Each five bytes give eight digits; a shorter rest is filled with zero bits and padded with `=`. -/
def base32 : List UInt8 → List Char
  | [] => []
  | a :: b :: c :: d :: e :: rest =>
    base32Quantum ((((a.toNat * 256 + b.toNat) * 256 + c.toNat) * 256 + d.toNat) * 256 + e.toNat) ++ base32 rest
  | [a] => (base32Quantum (a.toNat <<< 32)).take 2 ++ List.replicate 6 '='
  | [a, b] => (base32Quantum ((a.toNat * 256 + b.toNat) <<< 24)).take 4 ++ List.replicate 4 '='
  | [a, b, c] =>
    (base32Quantum (((a.toNat * 256 + b.toNat) * 256 + c.toNat) <<< 16)).take 5 ++ List.replicate 3 '='
  | [a, b, c, d] =>
    (base32Quantum ((((a.toNat * 256 + b.toNat) * 256 + c.toNat) * 256 + d.toNat) <<< 8)).take 7 ++ ['=']

theorem base32Digit_mem (n : Nat) : base32Digit n ∈ base32Alphabet := by
  have hlt : n % 32 < base32Alphabet.length := Nat.mod_lt n (by decide)
  rw [base32Digit, List.getD_eq_getElem _ _ hlt]
  exact List.getElem_mem hlt

theorem mem_base32Quantum {n : Nat} {c : Char} (h : c ∈ base32Quantum n) : c ∈ base32Alphabet := by
  obtain ⟨i, -, rfl⟩ := List.mem_map.mp h
  exact base32Digit_mem _

theorem mem_base32 {c : Char} {bytes : List UInt8} (h : c ∈ base32 bytes) : c ∈ base32Alphabet ∨ c = '=' := by
  induction bytes using base32.induct with
  | case1 => simp [base32] at h
  | case2 a b d e f rest ih =>
    rw [base32, List.mem_append] at h
    rcases h with h | h
    · exact Or.inl (mem_base32Quantum h)
    · exact ih h
  | case3 | case4 | case5 | case6 =>
    rw [base32, List.mem_append] at h
    rcases h with h | h
    · exact Or.inl (mem_base32Quantum (List.mem_of_mem_take h))
    · right
      simpa using h

/-! ### Base64 for URLs, without padding -/

def base64Alphabet : List Char := "ABCDEFGHIJKLMNOPQRSTUVWXYZabcdefghijklmnopqrstuvwxyz0123456789-_".toList

def base64Digit (n : Nat) : Char := base64Alphabet.getD (n % 64) 'A'

/-- The four digits of the 24-bit number `n`. -/
def base64Quantum (n : Nat) : List Char := (List.range 4).map fun i => base64Digit (n >>> (6 * (3 - i)))

/-- Each three bytes give four digits; a shorter rest is filled with zero bits. -/
def rawURLBase64 : List UInt8 → List Char
  | [] => []
  | a :: b :: c :: rest => base64Quantum ((a.toNat * 256 + b.toNat) * 256 + c.toNat) ++ rawURLBase64 rest
  | [a] => (base64Quantum (a.toNat <<< 16)).take 2
  | [a, b] => (base64Quantum ((a.toNat * 256 + b.toNat) <<< 8)).take 3

-- The quantum of the standard's own example, `Man`.
example : rawURLBase64 [0x4d, 0x61, 0x6e, 0xff] = "TWFu_w".toList := by decide

theorem length_base64Quantum (n : Nat) : (base64Quantum n).length = 4 := by
  rw [base64Quantum, List.length_map, List.length_range]

theorem length_rawURLBase64 {k : Nat} : ∀ {bytes : List UInt8}, bytes.length = 3 * k → (rawURLBase64 bytes).length = 4 * k
  | [], h => by
    have hk : k = 0 := by
      rw [List.length_nil] at h
      omega
    rw [hk]
    rfl
  | a :: b :: c :: rest, h => by
    simp only [List.length_cons] at h
    rw [rawURLBase64, List.length_append, length_base64Quantum, length_rawURLBase64 (by omega : rest.length = 3 * (k - 1))]
    omega
  | [a], h => by
    rw [List.length_singleton] at h
    omega
  | [a, b], h => by
    simp only [List.length_cons, List.length_nil] at h
    omega

/-! ### FNV-1a -/

/-- The 32-bit hash: each byte is mixed in and the state is multiplied by the prime. -/
def fnv32a (bytes : List UInt8) : UInt32 :=
  bytes.foldl (fun hash b => (hash ^^^ b.toUInt32) * 16777619) 2166136261

-- The value that the test of a hash package expects for one letter.
example : fnv32a [0x61] = 0xe40c292c := by decide

end Digest
