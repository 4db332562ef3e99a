import BoardSim.Board
import BoardSim.Device.Violation
import BoardSim.Snapshot

/-!
# BoardSim.Device.FlashWindow

The selected flash chip as memory. Reads give its words and writes program them; the
window has no state of its own.
-/

namespace BoardSim.FlashWindow

/-- Read the word at an offset of the selected image. -/
def read (board : Board) (offset : UInt32) : Reply Board UInt32 :=
  match board.selectedImage.readWord? offset.toNat with
  | some word => .answer board word
  | none => .decline board (.windowReadBeyond offset board.pins.selected)

/-- Program the word at an offset of the selected image. -/
def write (board : Board) (offset value : UInt32) : Reply Board Unit :=
  match board.selectedImage.programWord? offset.toNat value with
  | some image => .accept (board.withSelectedImage image)
  | none => .decline board (.windowWriteBeyond offset board.pins.selected)

/-- The selected chip. -/
def snapshot (board : Board) : Snapshot :=
  .record [("selected", .text board.pins.selected.name)]

end BoardSim.FlashWindow
