/-!
# BoardSim.Flash.Cells

The cells of a flash chip: `2 ^ height` bytes as a binary tree over the address
bits, in which a block whose bytes are all alike is a single node.

An erased chip of any size is one node, and filling an address range touches two
paths of the tree. A tree is read through `get`, and `get_fill` says all that
there is to say about a change.
-/

namespace BoardSim.Flash

/-- The bytes of a block of addresses. -/
inductive Cells where
  /-- All bytes of the block are this one. -/
  | uniform (byte : UInt8)
  /-- The lower and the upper half of the block. -/
  | branch (low high : Cells)

namespace Cells

/-- The lower half of a block. -/
def low : Cells → Cells
  | uniform byte => uniform byte
  | branch low _ => low

/-- The upper half of a block. -/
def high : Cells → Cells
  | uniform byte => uniform byte
  | branch _ high => high

/-- A block from its halves, as one node if these are alike. -/
def join : Cells → Cells → Cells
  | uniform a, uniform b => if a = b then uniform a else branch (uniform a) (uniform b)
  | low, high => branch low high

@[simp] theorem low_join (l h : Cells) : (join l h).low = l := by
  unfold join
  split
  · split <;> simp_all [low]
  · rfl

@[simp] theorem high_join (l h : Cells) : (join l h).high = h := by
  unfold join
  split
  · split <;> simp_all [high]
  · rfl

/-- How many bytes a block has at a height: `2 ^ height`. -/
def capacity (height : Nat) : Nat := 1 <<< height

@[simp] theorem capacity_zero : capacity 0 = 1 := rfl

/-- A block has twice as many bytes as each of its halves. -/
theorem capacity_succ (height : Nat) : capacity (height + 1) = 2 * capacity height :=
  Nat.shiftLeft_succ 1 height

/-- A block one higher than the logarithm of a size has more bytes than that. -/
theorem lt_capacity_log2 (size : Nat) : size < capacity (size.log2 + 1) := by
  rw [capacity, Nat.one_shiftLeft]
  exact Nat.lt_log2_self

/-! ## Single bytes -/

/-- The byte at `address` of a block of some height. -/
def get : (height : Nat) → Cells → (address : Nat) → UInt8
  | 0, uniform byte, _ => byte
  | 0, branch low _, address => get 0 low address
  | _ + 1, uniform byte, _ => byte
  | height + 1, branch low high, address =>
    if address < capacity height then get height low address
    else get height high (address - capacity height)

@[simp] theorem get_uniform (height : Nat) (byte : UInt8) (address : Nat) :
    get height (uniform byte) address = byte := by
  cases height <;> rfl

theorem get_succ (height : Nat) (cells : Cells) (address : Nat) :
    get (height + 1) cells address =
      if address < capacity height then get height cells.low address
      else get height cells.high (address - capacity height) := by
  cases cells <;> simp [get, low, high]

/-! ## Address ranges -/

/-- The block with `byte` at each address from `start` and below `stop`. -/
def fill : (height : Nat) → Cells → (start stop : Nat) → (byte : UInt8) → Cells
  | 0, cells, start, stop, byte => if start = 0 ∧ 0 < stop then uniform byte else cells
  | height + 1, cells, start, stop, byte =>
    let half := capacity height
    if stop ≤ start then cells
    else if start = 0 ∧ 2 * half ≤ stop then uniform byte
    else
      join (if start < half then fill height cells.low start (min stop half) byte else cells.low)
        (if half < stop then fill height cells.high (start - half) (stop - half) byte
          else cells.high)

/-- A fill changes the addresses of its range and no other. -/
theorem get_fill {height address : Nat} (inside : address < capacity height) (cells : Cells)
    (start stop : Nat) (byte : UInt8) :
    get height (fill height cells start stop byte) address =
      if start ≤ address ∧ address < stop then byte else get height cells address := by
  induction height generalizing cells start stop address with
  | zero =>
    have : address = 0 := by simpa using inside
    subst this
    simp only [fill]
    split <;> rename_i h
    · rw [if_pos ⟨by omega, h.2⟩, get_uniform]
    · rw [if_neg (by omega)]
  | succ height ih =>
    rw [capacity_succ] at inside
    simp only [fill]
    split
    · rw [if_neg (by omega)]
    · split
      · rw [get_uniform, if_pos (by omega)]
      · rw [get_succ, get_succ, low_join, high_join]
        split
        · split
          · rw [ih (by assumption)]
            have : address < min stop (capacity height) ↔ address < stop := by omega
            simp only [this]
          · rw [if_neg (by omega)]
        · split
          · rw [ih (by omega)]
            have : (start - capacity height ≤ address - capacity height ∧
                  address - capacity height < stop - capacity height) ↔
                (start ≤ address ∧ address < stop) := by
              omega
            simp only [this]
          · rw [if_neg (by omega)]

/-- Does each byte from `start` and below `stop` satisfy the test? -/
def all (test : UInt8 → Bool) : (height : Nat) → Cells → (start stop : Nat) → Bool
  | _, uniform byte, start, stop => stop ≤ start || test byte
  | 0, branch low _, start, stop => all test 0 low start stop
  | height + 1, branch low high, start, stop =>
    let half := capacity height
    stop ≤ start ||
      ((half ≤ start || all test height low start (min stop half)) &&
        (stop ≤ half || all test height high (start - half) (stop - half)))

/-! ## Runs -/

/-- Append the block from `start` of `length` bytes to runs that are listed from
the last to the first, as part of the last one if it touches it. -/
def addRun (start length : Nat) : List (Nat × Nat) → List (Nat × Nat)
  | [] => [(start, length)]
  | (s, n) :: rest =>
    if s + n = start then (s, n + length) :: rest else (start, length) :: (s, n) :: rest

/-- The maximal runs of bytes that satisfy the test, as start and length, from the
last to the first, put before `runs`. The block begins at address `base`, and
addresses from `size` on do not count. -/
def runs (test : UInt8 → Bool) (size : Nat) :
    (height base : Nat) → Cells → (runs : List (Nat × Nat)) → List (Nat × Nat)
  | height, base, uniform byte, runs =>
    if test byte && base < size then addRun base (min (capacity height) (size - base)) runs
    else runs
  | 0, base, branch low _, rs => runs test size 0 base low rs
  | height + 1, base, branch low high, rs =>
    runs test size height (base + capacity height) high (runs test size height base low rs)

end Cells

end BoardSim.Flash
