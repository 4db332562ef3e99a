/-!
# BoardSim.Bytes

Words and numbers as byte strings.

The bus moves 32-bit words, while flash images, messages and keys are byte
strings. A word stands for its four bytes with the lowest first; a key or a
digest stands for the number that its bytes write in base 256, highest first.
-/

namespace BoardSim.Bytes

/-! ## Words, lowest byte first -/

/-- The four bytes of a word, lowest first. -/
def ofWord (word : UInt32) : List UInt8 :=
  [word.toUInt8, (word >>> 8).toUInt8, (word >>> 16).toUInt8, (word >>> 24).toUInt8]

/-- The word whose bytes are the first four of `bytes`, lowest first; bytes that
are missing count as zero. -/
def toWord : List UInt8 → UInt32
  | [] => 0
  | byte :: rest => byte.toUInt32 ||| (toWord rest <<< 8)

/-- The words that `bytes` fill, four bytes each; the last word is completed with
zero bytes. -/
def toWords : List UInt8 → List UInt32
  | [] => []
  | a :: b :: c :: d :: rest => toWord [a, b, c, d] :: toWords rest
  | rest => [toWord rest]

@[simp] theorem length_ofWord (word : UInt32) : (ofWord word).length = 4 := rfl

/-- The lowest byte of a word has the word's lowest eight bits. -/
theorem lowByte_bit (word : BitVec 32) (i : Nat) :
    (word % 256#32).getLsbD i = (decide (i < 8) && word.getLsbD i) := by
  rw [BitVec.getLsbD, BitVec.getLsbD, BitVec.toNat_umod]
  exact Nat.testBit_mod_two_pow word.toNat 8 i

/-- A word is made of its bytes. -/
@[simp] theorem toWord_ofWord (word : UInt32) : toWord (ofWord word) = word := by
  apply UInt32.eq_of_toBitVec_eq
  apply BitVec.eq_of_getLsbD_eq
  intro i hi
  simp only [toWord, ofWord, UInt32.toBitVec_or, UInt32.toBitVec_shiftLeft]
  simp [lowByte_bit, BitVec.getLsbD_ushiftRight]
  by_cases h8 : i < 8
  · simp [h8]
  by_cases h16 : i < 16
  · simp [h8, hi, show i - 8 < 8 by omega, show 8 + (i - 8) = i by omega]
  by_cases h24 : i < 24
  · simp [h8, hi, show ¬ i - 8 < 8 by omega, show i - 8 < 32 by omega, show i - 8 - 8 < 8 by omega,
      show 16 + (i - 8 - 8) = i by omega]
  · simp [h8, hi, show ¬ i - 8 < 8 by omega, show i - 8 < 32 by omega,
      show ¬ i - 8 - 8 < 8 by omega, show i - 8 - 8 < 32 by omega,
      show 24 + (i - 8 - 8 - 8) = i by omega, show i - 8 - 8 - 8 < 8 by omega]

/-! ## Numbers, highest byte first -/

/-- The number that `bytes` write in base 256, highest byte first. -/
def toNat (bytes : List UInt8) : Nat :=
  bytes.foldl (fun n byte => n * 256 + byte.toNat) 0

/-- The `width` lowest base-256 digits of `n`, highest first. -/
def ofNat : (width : Nat) → (n : Nat) → List UInt8
  | 0, _ => []
  | width + 1, n => ofNat width (n / 256) ++ [UInt8.ofNat (n % 256)]

@[simp] theorem length_ofNat (width n : Nat) : (ofNat width n).length = width := by
  induction width generalizing n with
  | zero => rfl
  | succ width ih => simp [ofNat, ih]

end BoardSim.Bytes
