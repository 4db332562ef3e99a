import BoardSim.Bytes

/-!
# BoardSim.Crypto.Sha256

The hash function SHA-256 of FIPS 180-4 on byte strings.

The padded message is absorbed in blocks of 64 bytes. A block is expanded to 64
schedule words, and each of these drives one round on eight working words.
-/

namespace BoardSim.Crypto.Sha256

/-- The bits of a word turned right by `n` places. -/
def rotateRight (x n : UInt32) : UInt32 := (x >>> n) ||| (x <<< (32 - n))

/-- The round constants: the first 32 bits of the fractional parts of the cube roots
of the first 64 primes. -/
def roundConstants : List UInt32 :=
  [0x428a2f98, 0x71374491, 0xb5c0fbcf, 0xe9b5dba5, 0x3956c25b, 0x59f111f1, 0x923f82a4, 0xab1c5ed5,
   0xd807aa98, 0x12835b01, 0x243185be, 0x550c7dc3, 0x72be5d74, 0x80deb1fe, 0x9bdc06a7, 0xc19bf174,
   0xe49b69c1, 0xefbe4786, 0x0fc19dc6, 0x240ca1cc, 0x2de92c6f, 0x4a7484aa, 0x5cb0a9dc, 0x76f988da,
   0x983e5152, 0xa831c66d, 0xb00327c8, 0xbf597fc7, 0xc6e00bf3, 0xd5a79147, 0x06ca6351, 0x14292967,
   0x27b70a85, 0x2e1b2138, 0x4d2c6dfc, 0x53380d13, 0x650a7354, 0x766a0abb, 0x81c2c92e, 0x92722c85,
   0xa2bfe8a1, 0xa81a664b, 0xc24b8b70, 0xc76c51a3, 0xd192e819, 0xd6990624, 0xf40e3585, 0x106aa070,
   0x19a4c116, 0x1e376c08, 0x2748774c, 0x34b0bcb5, 0x391c0cb3, 0x4ed8aa4a, 0x5b9cca4f, 0x682e6ff3,
   0x748f82ee, 0x78a5636f, 0x84c87814, 0x8cc70208, 0x90befffa, 0xa4506ceb, 0xbef9a3f7, 0xc67178f2]

/-! ## Padding and blocks -/

/-- The message with a set bit, zeros up to eight bytes below a multiple of 64, and
its length in bits. -/
def pad (message : List UInt8) : List UInt8 :=
  message ++ 0x80 :: List.replicate ((119 - message.length % 64) % 64) 0 ++
    Bytes.ofNat 8 (8 * message.length)

/-- The words of a block, each of four bytes with the highest first. -/
def blockWords : List UInt8 → List UInt32
  | a :: b :: c :: d :: rest => Bytes.toWord [d, c, b, a] :: blockWords rest
  | _ => []

/-! ## The schedule -/

/-- The schedule word that follows those in `words`, at least sixteen. -/
def nextWord (words : Array UInt32) : UInt32 :=
  let back (n : Nat) : UInt32 := words.getD (words.size - n) 0
  let x := back 15
  let y := back 2
  back 16 + (rotateRight x 7 ^^^ rotateRight x 18 ^^^ (x >>> 3)) + back 7 +
    (rotateRight y 17 ^^^ rotateRight y 19 ^^^ (y >>> 10))

/-- Continue the schedule by `count` words. -/
def extend : (count : Nat) → Array UInt32 → Array UInt32
  | 0, words => words
  | count + 1, words => extend count (words.push (nextWord words))

/-- The 64 schedule words of a block. -/
def schedule (block : List UInt8) : List UInt32 := (extend 48 (blockWords block).toArray).toList

/-! ## Rounds -/

/-- The eight working words, which are also the chaining value between blocks. -/
structure State where
  a : UInt32
  b : UInt32
  c : UInt32
  d : UInt32
  e : UInt32
  f : UInt32
  g : UInt32
  h : UInt32

/-- The chaining value before the first block: the first 32 bits of the fractional
parts of the square roots of the first eight primes. -/
def State.start : State :=
  ⟨0x6a09e667, 0xbb67ae85, 0x3c6ef372, 0xa54ff53a, 0x510e527f, 0x9b05688c, 0x1f83d9ab, 0x5be0cd19⟩

/-- One round with the sum of its constant and its schedule word. -/
def State.round (s : State) (input : UInt32) : State :=
  let choice := (s.e &&& s.f) ^^^ (~~~s.e &&& s.g)
  let majority := (s.a &&& s.b) ^^^ (s.a &&& s.c) ^^^ (s.b &&& s.c)
  let t1 := s.h + (rotateRight s.e 6 ^^^ rotateRight s.e 11 ^^^ rotateRight s.e 25) + choice + input
  let t2 := (rotateRight s.a 2 ^^^ rotateRight s.a 13 ^^^ rotateRight s.a 22) + majority
  ⟨t1 + t2, s.a, s.b, s.c, s.d + t1, s.e, s.f, s.g⟩

/-- The word-wise sum. -/
def State.add (s t : State) : State :=
  ⟨s.a + t.a, s.b + t.b, s.c + t.c, s.d + t.d, s.e + t.e, s.f + t.f, s.g + t.g, s.h + t.h⟩

/-- The chaining value after a block. -/
def State.absorb (s : State) (block : List UInt8) : State :=
  s.add ((List.zipWith (· + ·) roundConstants (schedule block)).foldl State.round s)

/-- The chaining value after `count` blocks. -/
def State.absorbBlocks : (count : Nat) → State → List UInt8 → State
  | 0, s, _ => s
  | count + 1, s, bytes => absorbBlocks count (s.absorb (bytes.take 64)) (bytes.drop 64)

/-- The bytes of the eight words, each with the highest first. -/
def State.bytes (s : State) : List UInt8 :=
  [s.a, s.b, s.c, s.d, s.e, s.f, s.g, s.h].flatMap fun w => (Bytes.ofWord w).reverse

/-- The 32-byte digest of a message. -/
def digest (message : List UInt8) : List UInt8 :=
  let padded := pad message
  (State.start.absorbBlocks (padded.length / 64) padded).bytes

/-- A digest has 32 bytes. -/
@[simp] theorem length_digest (message : List UInt8) : (digest message).length = 32 := by
  simp [digest, State.bytes]

end BoardSim.Crypto.Sha256
