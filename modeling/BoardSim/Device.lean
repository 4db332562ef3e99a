import BoardSim.Device.CryptoBlock
import BoardSim.Device.FlashController
import BoardSim.Device.FlashWindow
import BoardSim.Device.Mailbox
import BoardSim.Device.PageMap
import BoardSim.Device.PinRegisters
import BoardSim.Device.Reconfig
import BoardSim.Device.SerialMemory
import BoardSim.Device.Timers

/-!
# BoardSim.Device

The devices that can be mounted on a bus, with one interface: a device is read and
written at offsets from its base, reset, and recorded. Each of these is given the
board that the device lives on.
-/

namespace BoardSim

open Flash (Chip)

/-- A device. -/
inductive Device where
  | wordBank (state : WordBank)
  | pins
  | timers (state : Timers)
  | reconfig (state : Reconfig)
  | cryptoBlock (state : CryptoBlock)
  | serialMemory (state : SerialMemory)
  | mailbox (state : Mailbox)
  | flashController (state : FlashController)
  | pageMap (state : PageMap)
  | flashWindow
  /-- A bare latch for bus tests: it holds one word and reads as the word plus the
  offset. -/
  | latch (word : UInt32)
deriving DecidableEq

namespace Device

/-- The reply of a device that leaves the board alone. -/
private def alone {σ α : Type} (board : Board) (wrap : σ → Device) (reply : Reply σ α) :
    Reply (Device × Board) α :=
  reply.mapState fun state => (wrap state, board)

/-- Read the word at an offset. -/
def read (device : Device) (board : Board) (offset : UInt32) : Reply (Device × Board) UInt32 :=
  match device with
  | .wordBank bank => alone board .wordBank (bank.read offset)
  | .pins =>
    (PinRegisters.read board.pins offset).mapState fun pins => (.pins, { board with pins })
  | .timers bank => alone board .timers (bank.read board.clock offset)
  | .reconfig block => alone board .reconfig (block.read offset)
  | .cryptoBlock block => alone board .cryptoBlock (block.read offset)
  | .serialMemory memory => alone board .serialMemory (memory.read offset)
  | .mailbox box => alone board .mailbox (box.read offset)
  | .flashController controller => alone board .flashController (controller.read offset)
  | .pageMap map => alone board .pageMap (map.read offset)
  | .flashWindow => (FlashWindow.read board offset).mapState fun board => (.flashWindow, board)
  | .latch word => .answer (.latch word, board) (word + offset)

/-- Write the word at an offset. -/
def write (device : Device) (board : Board) (offset value : UInt32) :
    Reply (Device × Board) Unit :=
  match device with
  | .wordBank bank => alone board .wordBank (bank.write offset value)
  | .pins =>
    (PinRegisters.write board.pins offset value).mapState fun pins => (.pins, { board with pins })
  | .timers bank => alone board .timers (bank.write board.clock offset value)
  | .reconfig block => alone board .reconfig (block.write offset value)
  | .cryptoBlock block => alone board .cryptoBlock (block.write offset value)
  | .serialMemory memory => alone board .serialMemory (memory.write offset value)
  | .mailbox box => alone board .mailbox (box.write offset value)
  | .flashController controller =>
    (controller.write board offset value).mapState fun state => (.flashController state.1, state.2)
  | .pageMap map => alone board .pageMap (map.write offset value)
  | .flashWindow =>
    (FlashWindow.write board offset value).mapState fun board => (.flashWindow, board)
  | .latch _ => .accept (.latch value, board)

/-- Return to the state at power-up. The pins are reset with their registers, and the
flash chips are erased with their controller. -/
def reset (device : Device) (board : Board) : Device × Board :=
  match device with
  | .wordBank bank => (.wordBank bank.clear, board)
  | .pins => (.pins, { board with pins := {} })
  | .timers bank => (.timers bank.reset, board)
  | .reconfig block => (.reconfig block.reset, board)
  | .cryptoBlock block => (.cryptoBlock block.reset, board)
  | .serialMemory _ => (.serialMemory .fresh, board)
  | .mailbox _ => (.mailbox .fresh, board)
  | .flashController _ => (.flashController .fresh, { board with flash := board.flash.reset })
  | .pageMap map => (.pageMap map.reset, board)
  | .flashWindow => (.flashWindow, board)
  | .latch _ => (.latch 0, board)

/-- The recorded state. -/
def snapshot (device : Device) (board : Board) : Snapshot :=
  match device with
  | .wordBank bank => bank.snapshot
  | .pins => PinRegisters.snapshot board.pins
  | .timers bank => bank.snapshot
  | .reconfig block => block.snapshot
  | .cryptoBlock block => block.snapshot
  | .serialMemory memory => memory.snapshot
  | .mailbox box => box.snapshot
  | .flashController controller => controller.snapshot
  | .pageMap map => map.snapshot
  | .flashWindow => FlashWindow.snapshot board
  | .latch _ => .nothing

end Device

end BoardSim
