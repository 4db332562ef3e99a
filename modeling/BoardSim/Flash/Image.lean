import BoardSim.Bytes
import BoardSim.Flash.Cells
import BoardSim.Flash.Chip

/-!
# BoardSim.Flash.Image

The content of one flash chip, with the rules of NOR flash: erasing sets bits,
programming only clears them.

Every operation states an offset and a length. It is carried out if the stated
bytes lie inside the image, and otherwise gives `none` and changes nothing.
-/

namespace BoardSim.Flash

/-- The value of an erased byte. -/
def erasedByte : UInt8 := 0xFF

/-- The content of a flash chip of `size` bytes. -/
structure Image where
  size : Nat
  cells : Cells

namespace Image

/-- The erased image of `size` bytes. -/
def erased (size : Nat) : Image := ⟨size, .uniform erasedByte⟩

/-- The height of a tree that has a cell for each byte. -/
def height (image : Image) : Nat := image.size.log2 + 1

/-- The byte at an offset. -/
def byte (image : Image) (offset : Nat) : UInt8 := image.cells.get image.height offset

/-- The byte at an offset, if it lies inside the image. -/
def get? (image : Image) (offset : Nat) : Option UInt8 :=
  if offset < image.size then some (image.byte offset) else none

/-- Do `length` bytes from `offset` on lie inside the image? -/
def covers (image : Image) (offset length : Nat) : Bool := offset + length ≤ image.size

/-! ## Reading -/

/-- The bytes from `offset` on. -/
def read? (image : Image) (offset length : Nat) : Option (List UInt8) :=
  if image.covers offset length then
    some ((List.range length).map fun k => image.byte (offset + k))
  else none

/-- The word at an offset. -/
def readWord? (image : Image) (offset : Nat) : Option UInt32 :=
  (image.read? offset 4).map Bytes.toWord

/-- Are these bytes inside the image and erased? -/
def isErased (image : Image) (offset length : Nat) : Bool :=
  image.covers offset length &&
    image.cells.all (· = erasedByte) image.height offset (offset + length)

/-- The maximal runs of bytes that are not erased, as start and length, in
ascending order. -/
def dirtyRuns (image : Image) : List (Nat × Nat) :=
  (image.cells.runs (· ≠ erasedByte) image.size image.height 0 []).reverse

/-! ## Changing -/

/-- The image with one byte replaced. -/
def set (image : Image) (offset : Nat) (byte : UInt8) : Image :=
  { image with cells := image.cells.fill image.height offset (offset + 1) byte }

/-- A byte reads as it was set, and no other byte changes. -/
theorem byte_set (image : Image) {other : Nat} (inside : other < image.size) (offset : Nat)
    (byte : UInt8) :
    (image.set offset byte).byte other = if other = offset then byte else image.byte other := by
  have reached : other < Cells.capacity image.height :=
    Nat.lt_trans inside (Cells.lt_capacity_log2 image.size)
  have single : offset ≤ other ∧ other < offset + 1 ↔ other = offset := by omega
  calc (image.set offset byte).byte other
      = if offset ≤ other ∧ other < offset + 1 then byte else image.byte other :=
        Cells.get_fill reached image.cells offset (offset + 1) byte
    _ = if other = offset then byte else image.byte other := by simp only [single]

/-- The image with the bytes from `offset` on replaced, each by what `combine` makes
of the old byte and the new one. -/
def overlay (combine : UInt8 → UInt8 → UInt8) : Image → (offset : Nat) → List UInt8 → Image
  | image, _, [] => image
  | image, offset, new :: rest =>
    overlay combine (image.set offset (combine (image.byte offset) new)) (offset + 1) rest

@[simp] theorem size_overlay (combine : UInt8 → UInt8 → UInt8) (image : Image) (offset : Nat)
    (bytes : List UInt8) : (image.overlay combine offset bytes).size = image.size := by
  induction bytes generalizing image offset with
  | nil => rfl
  | cons new rest ih => rw [overlay, ih]; rfl

/-- The bytes from `offset` on are combined with the new ones as far as these reach,
and no other byte changes. -/
theorem byte_overlay (combine : UInt8 → UInt8 → UInt8) (image : Image) {other : Nat}
    (inside : other < image.size) (offset : Nat) (bytes : List UInt8) :
    (image.overlay combine offset bytes).byte other =
      if offset ≤ other then
        match bytes[other - offset]? with
        | some new => combine (image.byte other) new
        | none => image.byte other
      else image.byte other := by
  induction bytes generalizing image offset with
  | nil => simp [overlay]
  | cons new rest ih =>
    rw [overlay, ih (image.set offset (combine (image.byte offset) new)) inside,
      byte_set image inside]
    by_cases here : other = offset
    · subst here
      simp [show ¬ other + 1 ≤ other by omega]
    · by_cases after : offset + 1 ≤ other
      · have : other - offset = other - (offset + 1) + 1 := by omega
        simp [here, after, this, show offset ≤ other by omega]
      · simp [here, after, show ¬ offset ≤ other by omega]

/-- Put bytes in place of those from `offset` on, as preloading does. -/
def load? (image : Image) (offset : Nat) (bytes : List UInt8) : Option Image :=
  if image.covers offset bytes.length then
    some (image.overlay (fun _ new => new) offset bytes)
  else none

/-- Program a word: clear each bit of its four bytes that is clear in the word. -/
def programWord? (image : Image) (offset : Nat) (word : UInt32) : Option Image :=
  if image.covers offset 4 then
    some (image.overlay (fun old new => old &&& new) offset (Bytes.ofWord word))
  else none

/-- Put one byte in place of `length` bytes. -/
def fill? (image : Image) (offset length : Nat) (byte : UInt8) : Option Image :=
  if image.covers offset length then
    some { image with cells := image.cells.fill image.height offset (offset + length) byte }
  else none

/-- Erase `length` bytes. -/
def erase? (image : Image) (offset length : Nat) : Option Image :=
  image.fill? offset length erasedByte

/-- Erase the whole image. -/
def reset (image : Image) : Image := erased image.size

end Image

/-! ## The chips of a board -/

/-- The images of both chips. -/
structure Pair where
  bmc : Image
  pch : Image

namespace Pair

/-- Both chips erased, with the given sizes. -/
def erased (bmcSize pchSize : Nat) : Pair := ⟨.erased bmcSize, .erased pchSize⟩

/-- The image of a chip. -/
def image (pair : Pair) : Chip → Image
  | .bmc => pair.bmc
  | .pch => pair.pch

/-- The pair with a chip's image replaced. -/
def withImage (pair : Pair) (image : Image) : Chip → Pair
  | .bmc => { pair with bmc := image }
  | .pch => { pair with pch := image }

/-- Erase both chips. -/
def reset (pair : Pair) : Pair := ⟨pair.bmc.reset, pair.pch.reset⟩

end Pair

end BoardSim.Flash
