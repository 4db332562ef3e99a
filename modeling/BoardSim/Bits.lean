/-!
# BoardSim.Bits

Single bits of register words.
-/

namespace BoardSim

/-- Is bit `i` of the word set? -/
def hasBit (word : UInt32) (i : Nat) : Bool := word.toNat.testBit i

theorem hasBit_and (a b : UInt32) (i : Nat) :
    hasBit (a &&& b) i = (hasBit a i && hasBit b i) := by
  rw [hasBit, UInt32.toNat_and, Nat.testBit_and]
  rfl

/-- A word other than zero has a bit that is set. -/
theorem ne_zero_iff_hasBit {word : UInt32} : word ≠ 0 ↔ ∃ i, hasBit word i = true := by
  constructor
  · intro h
    have hword : word.toNat ≠ 0 := fun hzero => h (UInt32.toNat_inj.mp hzero)
    exact Nat.exists_testBit_of_ne_zero hword
  · rintro ⟨i, hbit⟩ rfl
    rw [hasBit, UInt32.toNat_zero, Nat.zero_testBit] at hbit
    cases hbit

/-- How many bits of the word are set. -/
def bitCount (word : UInt32) : Nat := (List.range 32).countP (hasBit word)

end BoardSim
