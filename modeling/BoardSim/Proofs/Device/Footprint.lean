import BoardSim.Proofs.Device.PowerUp
import BoardSim.Proofs.Flash.Access

/-!
# BoardSim.Proofs.Device.Footprint

What an access to a device touches of the board that the devices share.

No read changes the board.  A write to the window or to the controller changes nothing of
it but the chips, and one to the registers of the pins nothing but the pins.  All other
devices are private: an access leaves the board as it is and depends on nothing of it but
the clock (`read_of_private`, `write_of_private`), which no access moves.
-/

namespace BoardSim

/-! ## the devices that share the chips -/

theorem FlashWindow.board_write (board : Board) (offset value : UInt32) :
    ∃ flash, (write board offset value).state = { board with flash } := by
  rw [write]
  split
  next image _ => exact ⟨_, rfl⟩
  next => exact ⟨board.flash, rfl⟩

namespace FlashController

theorem board_erase (controller : FlashController) (board : Board) (address : UInt32)
    (length : Nat) (count : FlashController → FlashController) :
    ∃ flash, (controller.erase board address length count).state.2 = { board with flash } := by
  rw [erase]
  split
  next => exact ⟨board.flash, rfl⟩
  next image _ => exact ⟨_, rfl⟩

theorem board_execute (controller : FlashController) (board : Board) :
    ∃ flash, (controller.execute board).state.2 = { board with flash } := by
  rw [execute]
  split
  next =>
    simp only
    split
    next => exact controller.board_erase board _ _ _
    next => exact controller.board_erase board _ _ _
    all_goals exact ⟨board.flash, rfl⟩
  next => exact ⟨board.flash, rfl⟩

theorem board_write (controller : FlashController) (board : Board) (offset value : UInt32) :
    ∃ flash, (controller.write board offset value).state.2 = { board with flash } := by
  rw [write]
  split
  next =>
    split
    next => exact controller.board_execute board
    next => exact ⟨board.flash, rfl⟩
  next =>
    repeat' split
    all_goals exact ⟨board.flash, rfl⟩

end FlashController

/-! ## all devices -/

namespace Device

/-- Is the board nothing to the device but the clock? -/
def isPrivate : Device → Bool
  | .pins | .flashController _ | .flashWindow => false
  | .wordBank _ | .timers _ | .reconfig _ | .cryptoBlock _ | .serialMemory _ | .mailbox _
  | .pageMap _ | .latch _ => true

theorem isPrivate_poweredUp (device : Device) :
    device.poweredUp.isPrivate = device.isPrivate := by
  cases device <;> rfl

variable {device : Device}

/-- On any board with the same clock a private device is read alike, and the board stays
as it is. -/
theorem read_of_private (h : device.isPrivate = true) {board other : Board}
    (hclock : other.clock = board.clock) (offset : UInt32) :
    device.read other offset =
      (device.read board offset).mapState fun state => (state.1, other) := by
  cases device with
  | timers bank =>
      rw [read, read, hclock]
      rfl
  | pins | flashController | flashWindow => cases h
  | _ => rfl

/-- So it is when it is written. -/
theorem write_of_private (h : device.isPrivate = true) {board other : Board}
    (hclock : other.clock = board.clock) (offset value : UInt32) :
    device.write other offset value =
      (device.write board offset value).mapState fun state => (state.1, other) := by
  cases device with
  | timers bank =>
      rw [write, write, hclock]
      rfl
  | pins | flashController | flashWindow => cases h
  | _ => rfl

/-- No read changes the board. -/
theorem board_read (device : Device) (board : Board) (offset : UInt32) :
    (device.read board offset).state.2 = board := by
  cases device with
  | pins =>
      have hpins : (PinRegisters.read board.pins offset).state = board.pins := by
        rw [PinRegisters.read]
        split <;> rfl
      exact congrArg (fun pins => { board with pins }) hpins
  | flashWindow => exact FlashWindow.state_read board offset
  | _ => rfl

/-- Only the pins' own registers change more of the board than the chips. -/
theorem board_write (h : device ≠ .pins) (board : Board) (offset value : UInt32) :
    ∃ flash, (device.write board offset value).state.2 = { board with flash } := by
  cases device with
  | pins => exact absurd rfl h
  | flashWindow => exact FlashWindow.board_write board offset value
  | flashController controller => exact controller.board_write board offset value
  | _ => exact ⟨board.flash, rfl⟩

theorem pins_write (h : device ≠ .pins) (board : Board) (offset value : UInt32) :
    (device.write board offset value).state.2.pins = board.pins := by
  obtain ⟨flash, hboard⟩ := board_write h board offset value
  rw [hboard]

/-- No access moves the clock. -/
theorem clock_write (device : Device) (board : Board) (offset value : UInt32) :
    (device.write board offset value).state.2.clock = board.clock := by
  by_cases h : device = .pins
  · subst h
    rfl
  · obtain ⟨flash, hboard⟩ := board_write h board offset value
    rw [hboard]

end Device

end BoardSim
