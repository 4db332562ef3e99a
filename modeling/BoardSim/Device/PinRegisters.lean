import BoardSim.Board
import BoardSim.Device.Violation
import BoardSim.Snapshot

/-!
# BoardSim.Device.PinRegisters

The registers of the general purpose pins. They are a view of the board's pins, so
the device has no state of its own.
-/

namespace BoardSim.PinRegisters

/-- The registers of the device. -/
inductive Register where
  /-- The output word. -/
  | outputs
  /-- The input word; writes to it are ignored. -/
  | inputs

/-- The register at an offset. -/
def Register.ofOffset? (offset : UInt32) : Option Register :=
  if offset = 0x00 then some .outputs
  else if offset = 0x04 then some .inputs
  else none

/-- Read a register. -/
def read (pins : Pins) (offset : UInt32) : Reply Pins UInt32 :=
  match Register.ofOffset? offset with
  | some .outputs => .answer pins pins.outputs
  | some .inputs => .answer pins pins.inputs
  | none => .decline pins (.noRegister .pins offset)

/-- Write a register. -/
def write (pins : Pins) (offset value : UInt32) : Reply Pins Unit :=
  match Register.ofOffset? offset with
  | some .outputs => .accept { pins with outputs := value }
  | some .inputs => .accept pins
  | none => .decline pins (.noRegister .pins offset)

/-- Both words. -/
def snapshot (pins : Pins) : Snapshot :=
  .record [("gpo_1", .word pins.outputs), ("gpi_1", .word pins.inputs)]

end BoardSim.PinRegisters
