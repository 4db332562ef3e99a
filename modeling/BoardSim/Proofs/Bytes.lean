import BoardSim.Bytes

/-!
# BoardSim.Proofs.Bytes

Streams of words as streams of bytes.

A device that is fed word by word sees the bytes of the words, lowest first:
`expand`.  Expanding the words that a byte string fills gives the byte string
back (`expand_toWords`), and so does expanding the words that are cut out of it
(`expand_map_toWord`).
-/

namespace BoardSim.Bytes

/-! ## bits of words and bytes -/

/-- Bit `i` of a word that is put together from bytes: the first byte has the
lowest eight bits. -/
theorem getLsbD_toWord_cons (byte : UInt8) (rest : List UInt8) {i : Nat} (hi : i < 32) :
    (toWord (byte :: rest)).toBitVec.getLsbD i =
      if i < 8 then byte.toBitVec.getLsbD i else (toWord rest).toBitVec.getLsbD (i - 8) := by
  rw [toWord, UInt32.toBitVec_or, UInt32.toBitVec_shiftLeft, BitVec.getLsbD_or]
  by_cases h8 : i < 8
  · simp [h8, hi]
  · have hbyte : byte.toBitVec.getLsbD i = false := BitVec.getLsbD_of_ge _ _ (by omega)
    have hrest : i - 8 < 32 := by omega
    simp [h8, hi, hrest, hbyte]

/-- The bits of a word that is put together from bytes, by the byte they lie
in; a byte that is missing counts as zero. -/
theorem getLsbD_toWord (bytes : List UInt8) {k i : Nat} (hk : k < 4) (hi : i < 8) :
    (toWord bytes).toBitVec.getLsbD (8 * k + i) = (bytes.getD k 0).toBitVec.getLsbD i := by
  induction bytes generalizing k with
  | nil => simp [toWord]
  | cons byte rest ih =>
      rw [getLsbD_toWord_cons _ _ (by omega)]
      cases k with
      | zero => rw [if_pos (by omega), Nat.mul_zero, Nat.zero_add, List.getD_cons_zero]
      | succ k =>
          have hsub : 8 * (k + 1) + i - 8 = 8 * k + i := by omega
          rw [if_neg (by omega), hsub, ih (by omega), List.getD_cons_succ]

/-- The bits of the byte that begins at bit `k` of a word. -/
theorem getLsbD_toUInt8_shiftRight (word : UInt32) {k i : Nat} (hk : k < 32) (hi : i < 8) :
    (word >>> UInt32.ofNat k).toUInt8.toBitVec.getLsbD i = word.toBitVec.getLsbD (k + i) := by
  have hmod : k % 4294967296 % 32 = k := by omega
  simp [hi, hmod, BitVec.getLsbD_ushiftRight]

/-- The `k`-th byte of a word that is put together from bytes. -/
theorem toUInt8_toWord_shiftRight (bytes : List UInt8) {k : Nat} (hk : k < 4) :
    (toWord bytes >>> UInt32.ofNat (8 * k)).toUInt8 = bytes.getD k 0 := by
  apply UInt8.eq_of_toBitVec_eq
  apply BitVec.eq_of_getLsbD_eq
  intro i hi
  rw [getLsbD_toUInt8_shiftRight _ (by omega) hi, getLsbD_toWord bytes hk hi]

/-- The bytes of a word that is put together from four bytes are those bytes. -/
theorem ofWord_toWord (a b c d : UInt8) : ofWord (toWord [a, b, c, d]) = [a, b, c, d] := by
  have hbyte := @toUInt8_toWord_shiftRight [a, b, c, d]
  have ha := hbyte (k := 0) (by decide)
  have hb := hbyte (k := 1) (by decide)
  have hc := hbyte (k := 2) (by decide)
  have hd := hbyte (k := 3) (by decide)
  rw [ofWord]
  simp only [List.cons.injEq, and_true]
  exact ⟨by simpa using ha, by simpa using hb, by simpa using hc, by simpa using hd⟩

/-! ## the bytes of a stream of words -/

/-- The bytes of the words, in order, each word with its lowest byte first. -/
def expand (words : List UInt32) : List UInt8 := words.flatMap ofWord

@[simp] theorem expand_nil : expand [] = [] := rfl

@[simp] theorem expand_cons (word : UInt32) (words : List UInt32) :
    expand (word :: words) = ofWord word ++ expand words := rfl

@[simp] theorem expand_append (xs ys : List UInt32) :
    expand (xs ++ ys) = expand xs ++ expand ys := List.flatMap_append

@[simp] theorem length_expand (words : List UInt32) : (expand words).length = 4 * words.length := by
  induction words with
  | nil => rfl
  | cons word words ih =>
      rw [expand_cons, List.length_append, length_ofWord, ih, List.length_cons]
      omega

/-- The words that a byte string fills have its bytes, if it fills the last one. -/
theorem expand_toWords (bytes : List UInt8) (h4 : 4 ∣ bytes.length) :
    expand (toWords bytes) = bytes := by
  induction bytes using toWords.induct with
  | case1 => rfl
  | case2 a b c d rest ih =>
      have hrest : 4 ∣ rest.length := by simp only [List.length_cons] at h4; omega
      rw [toWords, expand_cons, ofWord_toWord, ih hrest]
      rfl
  | case3 bytes hne hlong =>
      match bytes, h4 with
      | [], _ => exact absurd rfl hne
      | [_], h4 | [_, _], h4 | [_, _, _], h4 =>
          simp only [List.length_cons, List.length_nil] at h4
          omega
      | a :: b :: c :: d :: rest, _ => exact absurd rfl (hlong a b c d rest)

/-- The words that four bytes each of a byte string make have its bytes. -/
theorem expand_map_toWord (bytes : List UInt8) {count : Nat} (h : 4 * count ≤ bytes.length) :
    expand ((List.range count).map fun i => toWord ((bytes.drop (4 * i)).take 4)) =
      bytes.take (4 * count) := by
  induction count with
  | zero => rfl
  | succ count ih =>
      have hfour : ((bytes.drop (4 * count)).take 4).length = 4 := by
        rw [List.length_take, List.length_drop]
        omega
      have hlast : expand [toWord ((bytes.drop (4 * count)).take 4)] =
          (bytes.drop (4 * count)).take 4 := by
        match (bytes.drop (4 * count)).take 4, hfour with
        | [a, b, c, d], _ => exact (List.append_nil _).trans (ofWord_toWord a b c d)
      rw [List.range_succ, List.map_append, List.map_singleton, expand_append, ih (by omega), hlast,
        Nat.mul_succ, List.take_add]

end BoardSim.Bytes
