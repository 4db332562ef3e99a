import BoardSim.Device
import BoardSim.Proofs.Device.Run
import BoardSim.Proofs.Flash.History

/-!
# BoardSim.Proofs.Flash.Access

Which accesses to devices change the flash chips, and how.

The flash window programs the word that is written to it, and the controller carries
out the erase that its registers state (`FlashController.statedErase?`).  Both act on
the chip that the pins select.  No other access to a device touches a chip.
-/

namespace BoardSim

open Flash

theorem Board.image_withSelectedImage (board : Board) (image : Image) {chip : Chip}
    (h : chip ≠ board.pins.selected) :
    (board.withSelectedImage image).flash.image chip = board.flash.image chip := by
  rw [withSelectedImage, Pair.image_withImage, if_neg h]

/-! ## the flash window -/

/-- The word whose bytes stand at an offset, lowest first. -/
def Flash.Image.wordAt (image : Image) (offset : Nat) : UInt32 :=
  Bytes.toWord ((List.range 4).map fun k => image.byte (offset + k))

/-- The window answers with the word at the offset, if the image has it. -/
theorem FlashWindow.result_read (board : Board) (offset : UInt32) :
    (read board offset).result =
      if offset.toNat + 4 ≤ board.selectedImage.size then
        .ok (board.selectedImage.wordAt offset.toNat)
      else refuse (.windowReadBeyond offset board.pins.selected) := by
  rw [read, Image.readWord?, Image.read?, Image.covers, Image.wordAt]
  by_cases hfits : offset.toNat + 4 ≤ board.selectedImage.size
  · simp [hfits]
  · simp [hfits]

theorem FlashWindow.state_read (board : Board) (offset : UInt32) :
    (read board offset).state = board := by
  rw [read]
  split <;> rfl

/-- A word that the window accepts is programmed. -/
theorem FlashWindow.changed_write (board : Board) (offset value : UInt32) :
    Pair.Changed
      (if (write board offset value).result.isOk then
        [.programmed board.pins.selected offset.toNat value]
      else [])
      board.flash (write board offset value).state.flash := by
  rw [write]
  split
  next image hprogram => exact Pair.changed_programWord hprogram
  next => exact Pair.changed_nil board.flash

theorem FlashWindow.image_write {board : Board} {chip : Chip} (hchip : chip ≠ board.pins.selected)
    (offset value : UInt32) :
    (write board offset value).state.flash.image chip = board.flash.image chip := by
  rw [write]
  split
  next image _ => exact board.image_withSelectedImage image hchip
  next => rfl

/-! ## the controller -/

namespace FlashController

/-- Where the erase that the registers state begins and how many bytes it covers, if
they state one. -/
def statedErase? (controller : FlashController) : Option (Nat × Nat) :=
  match controller.get? commandSetting, controller.get? commandAddress with
  | some setting, some address =>
      if setting.toUInt8 = 0x20 then some (address.toNat, sectorSize)
      else if setting.toUInt8 = 0xD8 then some (address.toNat, blockSize)
      else none
  | _, _ => none

/-- The changes that a word written to the register that starts commands asks for. -/
def commanded (controller : FlashController) (chip : Chip) (value : UInt32) : List Change :=
  match controller.statedErase? with
  | some (start, length) => if hasBit value 0 then [.erased chip start length] else []
  | none => []

theorem changed_erase (controller : FlashController) (board : Board) (address : UInt32)
    (length : Nat) (count : FlashController → FlashController) :
    Pair.Changed
      (if (controller.erase board address length count).result.isOk then
        [.erased board.pins.selected address.toNat length]
      else [])
      board.flash (controller.erase board address length count).state.2.flash := by
  rw [erase]
  split
  next => exact Pair.changed_nil board.flash
  next image herase => exact Pair.changed_erase herase

/-- The byte of a command. -/
def Opcode.byte : Opcode → UInt8
  | .eraseSector => 0x20
  | .eraseBlock => 0xD8
  | .writeEnable => 0x06
  | .writeDisable => 0x04
  | .readStatus => 0x05
  | .readId => 0x9F

theorem Opcode.ofByte?_eq_some_iff {byte : UInt8} {opcode : Opcode} :
    ofByte? byte = some opcode ↔ byte = opcode.byte := by
  constructor
  · intro h
    rw [ofByte?] at h
    repeat' split at h
    all_goals cases h
    all_goals assumption
  · rintro rfl
    cases opcode <;> rfl

theorem Opcode.ofByte?_eq_none_iff {byte : UInt8} :
    ofByte? byte = none ↔ byte ∉ [0x20, 0xD8, 0x06, 0x04, 0x05, 0x9F] := by
  grind [ofByte?]

theorem changed_execute (controller : FlashController) (board : Board) {value : UInt32}
    (hstart : hasBit value 0 = true) :
    Pair.Changed
      (if (controller.execute board).result.isOk then
        controller.commanded board.pins.selected value
      else [])
      board.flash (controller.execute board).state.2.flash := by
  rw [execute, commanded, statedErase?]
  cases controller.get? commandSetting with
  | none => exact Pair.changed_nil board.flash
  | some setting =>
      cases controller.get? commandAddress with
      | none => exact Pair.changed_nil board.flash
      | some address =>
          have hsector : Opcode.ofByte? setting.toUInt8 = some .eraseSector ↔
              setting.toUInt8 = 0x20 := Opcode.ofByte?_eq_some_iff
          have hblock : Opcode.ofByte? setting.toUInt8 = some .eraseBlock ↔
              setting.toUInt8 = 0xD8 := Opcode.ofByte?_eq_some_iff
          simp only
          cases hopcode : Opcode.ofByte? setting.toUInt8 with
          | none =>
              simp only [hopcode, reduceCtorEq, false_iff] at hsector hblock
              simpa [hsector, hblock] using Pair.changed_nil board.flash
          | some opcode =>
              cases opcode with
              | eraseSector =>
                  simp only [hopcode, true_iff] at hsector
                  simpa [hsector, hstart] using controller.changed_erase board address sectorSize _
              | eraseBlock =>
                  simp only [hopcode, true_iff] at hblock
                  simpa [hblock, hstart] using controller.changed_erase board address blockSize _
              | _ =>
                  simp only [hopcode, Option.some.injEq, reduceCtorEq, false_iff] at hsector hblock
                  simpa [hsector, hblock] using Pair.changed_nil board.flash

/-- The erase of a command that the controller accepts is carried out, and nothing else
is done to the chips. -/
theorem changed_write (controller : FlashController) (board : Board) (offset value : UInt32) :
    Pair.Changed
      (if (controller.write board offset value).result.isOk ∧ offset = commandControl then
        controller.commanded board.pins.selected value
      else [])
      board.flash (controller.write board offset value).state.2.flash := by
  rw [write]
  split
  next hcommand =>
    split
    next hstart => simpa [hcommand] using controller.changed_execute board hstart
    next hstart =>
      have hnone : controller.commanded board.pins.selected value = [] := by
        rw [commanded]
        split <;> simp [hstart]
      simpa [hnone] using Pair.changed_nil board.flash
  next hother =>
    simp only [hother, and_false, if_false]
    repeat' split
    all_goals exact Pair.changed_nil board.flash

section Image

variable (controller : FlashController) {board : Board} {chip : Chip}
  (hchip : chip ≠ board.pins.selected)

include hchip

theorem image_erase (address : UInt32) (length : Nat)
    (count : FlashController → FlashController) :
    (controller.erase board address length count).state.2.flash.image chip =
      board.flash.image chip := by
  rw [erase]
  split
  next => rfl
  next image _ => exact board.image_withSelectedImage image hchip

theorem image_execute :
    (controller.execute board).state.2.flash.image chip = board.flash.image chip := by
  rw [execute]
  split
  next =>
    dsimp only
    split
    next => exact controller.image_erase hchip ..
    next => exact controller.image_erase hchip ..
    all_goals rfl
  next => rfl

theorem image_write (offset value : UInt32) :
    (controller.write board offset value).state.2.flash.image chip = board.flash.image chip := by
  rw [write]
  split
  next =>
    split
    next => exact controller.image_execute hchip
    next => rfl
  next =>
    repeat' split
    all_goals rfl

end Image

end FlashController

/-! ## all devices -/

namespace Device

theorem flash_read (device : Device) (board : Board) (offset : UInt32) :
    (device.read board offset).state.2.flash = board.flash := by
  cases device with
  | flashWindow => exact congrArg Board.flash (FlashWindow.state_read board offset)
  | _ => rfl

/-- A device other than the window and the controller leaves the chips alone. -/
theorem flash_write {device : Device} (hwindow : device ≠ .flashWindow)
    (hcontroller : ∀ controller, device ≠ .flashController controller) (board : Board)
    (offset value : UInt32) : (device.write board offset value).state.2.flash = board.flash := by
  cases device with
  | flashWindow => exact absurd rfl hwindow
  | flashController controller => exact absurd rfl (hcontroller controller)
  | _ => rfl

/-- No write to a device changes the image of a chip that is not selected. -/
theorem image_write (device : Device) {board : Board} {chip : Chip}
    (hchip : chip ≠ board.pins.selected) (offset value : UInt32) :
    (device.write board offset value).state.2.flash.image chip = board.flash.image chip := by
  cases device with
  | flashWindow => exact FlashWindow.image_write hchip offset value
  | flashController controller => exact controller.image_write hchip offset value
  | _ => rfl

end Device

end BoardSim
