import BoardSim.Bits
import BoardSim.Flash.Image

/-!
# BoardSim.Board

What the devices of a board share: the pins, the flash chips and the clock.

A device that samples or drives shared state is given the board with each access
and hands it back. Nothing else connects two devices.
-/

namespace BoardSim

open Flash (Chip)

/-- The words of the general purpose pins. -/
structure Pins where
  outputs : UInt32 := 0
  inputs : UInt32 := 0
deriving DecidableEq

/-- The output that routes the flash controller: set to the management controller's
chip, clear to the platform hub's. -/
def Pins.routeBit : Nat := 6

/-- The chip that the flash controller and the flash window address. -/
def Pins.selected (pins : Pins) : Chip :=
  if hasBit pins.outputs routeBit then .bmc else .pch

/-- The shared state of a board. -/
structure Board where
  pins : Pins := {}
  flash : Flash.Pair
  /-- The reading of the clock in nanoseconds; it wraps at `2 ^ 64`. -/
  clock : UInt64 := 0

namespace Board

/-- A board at power-up, with erased chips of the given sizes. -/
def fresh (bmcSize pchSize : Nat) : Board where
  flash := .erased bmcSize pchSize

/-- The image of the chip that the pins select. -/
def selectedImage (board : Board) : Flash.Image := board.flash.image board.pins.selected

/-- The board with the image of the selected chip replaced. -/
def withSelectedImage (board : Board) (image : Flash.Image) : Board :=
  { board with flash := board.flash.withImage image board.pins.selected }

/-- Move the clock on by so many nanoseconds. -/
def advanceClock (board : Board) (nanos : Nat) : Board :=
  { board with clock := board.clock + UInt64.ofNat nanos }

/-- Set the clock to so many nanoseconds. -/
def setClock (board : Board) (nanos : Nat) : Board :=
  { board with clock := UInt64.ofNat nanos }

end Board

end BoardSim
