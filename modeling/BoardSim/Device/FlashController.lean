import BoardSim.Board
import BoardSim.Device.Violation
import BoardSim.Snapshot

/-!
# BoardSim.Device.FlashController

The controller of the flash chips. A command acts on the chip that the board's pins
select when it is started.

Each chip has a latch that write-enable sets and that write-disable and an accepted
erase clear. An erase does not ask for it.
-/

namespace BoardSim

open Flash (Chip)

/-- The state of the controller. -/
structure FlashController where
  /-- The words of the register bank. -/
  registers : List UInt32
  /-- The write-enable latch of the management controller's chip. -/
  bmcLatch : Bool := false
  /-- The write-enable latch of the platform hub's chip. -/
  pchLatch : Bool := false
  /-- How many erases of a sector were carried out. -/
  sectorErases : Nat := 0
  /-- How many erases of a block were carried out. -/
  blockErases : Nat := 0
deriving DecidableEq

namespace FlashController

/-- How many words the register bank has. -/
def registerCount : Nat := 14

/-- The controller at power-up. -/
def fresh : FlashController := { registers := List.replicate registerCount 0 }

/-- The offsets of the registers that have a part in commands. -/
def commandSetting : UInt32 := 0x1C

@[inherit_doc commandSetting]
def commandControl : UInt32 := 0x20

@[inherit_doc commandSetting]
def commandAddress : UInt32 := 0x24

@[inherit_doc commandSetting]
def dataLow : UInt32 := 0x30

@[inherit_doc commandSetting]
def dataHigh : UInt32 := 0x34

/-- The identification of a chip, the manufacturer in the lowest byte. -/
def chipId : UInt32 := 0x001940EF

/-- The latch of a chip. -/
def latch (controller : FlashController) : Chip → Bool
  | .bmc => controller.bmcLatch
  | .pch => controller.pchLatch

/-- The controller with a chip's latch replaced. -/
def withLatch (controller : FlashController) (value : Bool) : Chip → FlashController
  | .bmc => { controller with bmcLatch := value }
  | .pch => { controller with pchLatch := value }

/-- The status byte of a chip: the latch in bit 1. -/
def status (controller : FlashController) (chip : Chip) : UInt32 :=
  if controller.latch chip then 0x02 else 0

/-- The word at an offset; each word answers to its four offsets. -/
def get? (controller : FlashController) (offset : UInt32) : Option UInt32 :=
  controller.registers[offset.toNat / 4]?

/-- The controller with the word at an offset replaced. -/
def set (controller : FlashController) (offset value : UInt32) : FlashController :=
  { controller with registers := controller.registers.set (offset.toNat / 4) value }

/-! ## Commands -/

/-- The commands that have an effect. -/
inductive Opcode where
  | eraseSector
  | eraseBlock
  | writeEnable
  | writeDisable
  | readStatus
  | readId

/-- The command of a byte. -/
def Opcode.ofByte? (byte : UInt8) : Option Opcode :=
  if byte = 0x20 then some .eraseSector
  else if byte = 0xD8 then some .eraseBlock
  else if byte = 0x06 then some .writeEnable
  else if byte = 0x04 then some .writeDisable
  else if byte = 0x05 then some .readStatus
  else if byte = 0x9F then some .readId
  else none

/-- How many bytes the erase of a sector covers. -/
def sectorSize : Nat := 0x1000

/-- How many bytes the erase of a block covers. -/
def blockSize : Nat := 0x10000

/-- Erase `length` bytes of the selected chip from `address` on. -/
def erase (controller : FlashController) (board : Board) (address : UInt32) (length : Nat)
    (count : FlashController → FlashController) : Reply (FlashController × Board) Unit :=
  match board.selectedImage.erase? address.toNat length with
  | none => .decline (controller, board) (.eraseOutside length address board.pins.selected)
  | some image =>
    .accept (count (controller.withLatch false board.pins.selected), board.withSelectedImage image)

/-- Carry out the command that the registers state. -/
def execute (controller : FlashController) (board : Board) : Reply (FlashController × Board) Unit :=
  match controller.get? commandSetting, controller.get? commandAddress with
  | some setting, some address =>
    let chip := board.pins.selected
    match Opcode.ofByte? setting.toUInt8 with
    | some .eraseSector =>
      controller.erase board address sectorSize fun after =>
        { after with sectorErases := after.sectorErases + 1 }
    | some .eraseBlock =>
      controller.erase board address blockSize fun after =>
        { after with blockErases := after.blockErases + 1 }
    | some .writeEnable => .accept (controller.withLatch true chip, board)
    | some .writeDisable => .accept (controller.withLatch false chip, board)
    | some .readStatus => .accept (controller.set dataLow (controller.status chip), board)
    | some .readId => .accept (controller.set dataLow chipId, board)
    | none => .accept (controller, board)
  | _, _ => .crash (controller, board) .registerPastBank

/-! ## The registers -/

/-- Read a register; the one that starts commands reads as zero. -/
def read (controller : FlashController) (offset : UInt32) : Reply FlashController UInt32 :=
  if offset = commandControl then .answer controller 0
  else if offset ≤ dataHigh then
    match controller.get? offset with
    | some value => .answer controller value
    | none => .crash controller .registerPastBank
  else .decline controller (.noRegister .flashController offset)

/-- Write a register. Bit 0 of the one that starts commands starts one; the two of the
data that was read ignore writes. -/
def write (controller : FlashController) (board : Board) (offset value : UInt32) :
    Reply (FlashController × Board) Unit :=
  if offset = commandControl then
    if hasBit value 0 then controller.execute board else .accept (controller, board)
  else if offset = dataLow ∨ offset = dataHigh then .accept (controller, board)
  else if offset ≤ dataHigh then
    if offset.toNat / 4 < controller.registers.length then
      .accept (controller.set offset value, board)
    else .crash (controller, board) .registerPastBank
  else .decline (controller, board) (.noRegister .flashController offset)

/-- The registers and the counts of erases. -/
def snapshot (controller : FlashController) : Snapshot :=
  .record
    [("regs", .list (controller.registers.map .word)),
     ("erase_4k_count", .number controller.sectorErases),
     ("erase_64k_count", .number controller.blockErases)]

end FlashController

end BoardSim
