import BoardSim.Device
import BoardSim.Proofs.Device.Run

/-!
# BoardSim.Proofs.Device.PowerUp

What a device would be after a reset, and that no access changes it.

A device keeps the settings that it was mounted with apart from what the firmware
makes of it: a tick, a latency, a number of polls, a chip.  A reset restores exactly
these, so the state that it leads to (`Device.poweredUp`) identifies the device
through all that happens to it, its kind included.
-/

namespace BoardSim

/-! ## the register decoders -/

theorem WordBank.clear_read (bank : WordBank) (offset : UInt32) :
    (bank.read offset).state.clear = bank.clear := by
  rw [read]
  split <;> rfl

theorem WordBank.clear_write (bank : WordBank) (offset value : UInt32) :
    (bank.write offset value).state.clear = bank.clear := by
  rw [write]
  split <;> rfl

theorem Timers.reset_read (bank : Timers) (now : UInt64) (offset : UInt32) :
    (bank.read now offset).state.reset = bank.reset := by
  rw [read]
  split
  next => rfl
  next =>
    rw [readTimer]
    split <;> rfl

theorem Timers.reset_write (bank : Timers) (now : UInt64) (offset value : UInt32) :
    (bank.write now offset value).state.reset = bank.reset := by
  rw [write]
  split
  next => rfl
  next => split <;> rfl

theorem Reconfig.reset_read (block : Reconfig) (offset : UInt32) :
    (block.read offset).state.reset = block.reset := by
  rw [read]
  split <;> rfl

theorem Reconfig.busyPolls_controlEffect (value : UInt32) (block : Reconfig) :
    (controlEffect value block).busyPolls = block.busyPolls := by
  simp only [controlEffect]
  split <;> split <;> rfl

theorem Reconfig.reset_write (block : Reconfig) (offset value : UInt32) :
    (block.write offset value).state.reset = block.reset := by
  rw [write]
  split
  next =>
    rw [runCommand]
    split
    next => rfl
    next => exact congrArg fresh (busyPolls_controlEffect value _)
  next => rfl
  next =>
    rw [runCommand]
    split <;> rfl
  all_goals rfl

theorem PageMap.reset_read (map : PageMap) (offset : UInt32) :
    (map.read offset).state.reset = map.reset := by
  rw [read]
  split <;> rfl

theorem PageMap.reset_write (map : PageMap) (offset value : UInt32) :
    (map.write offset value).state.reset = map.reset := by
  rw [write]
  split <;> rfl

/-! ### the crypto block -/

namespace CryptoBlock

@[simp] theorem latency_finish (block : CryptoBlock) : block.finish.latency = block.latency := rfl

@[simp] theorem latency_finishMessage (block : CryptoBlock) :
    block.finishMessage.latency = block.latency := by
  rw [finishMessage]
  split <;> rfl

@[simp] theorem latency_restart (block : CryptoBlock) (mode : Mode) :
    (block.restart mode).latency = block.latency := rfl

theorem latency_startSession (block : CryptoBlock) (mode : Mode) :
    (block.startSession mode).state.latency = block.latency := by
  rw [startSession]
  split
  next =>
    rw [Reply.state_accept, apply_ite latency, latency_finishMessage, latency_restart, ite_self]
  next => rfl

theorem latency_writeControl (block : CryptoBlock) (value : UInt32) :
    (block.writeControl value).state.latency = block.latency := by
  rw [writeControl]
  split <;> simp [latency_startSession]

theorem latency_takeMessage (block : CryptoBlock) (value : UInt32) :
    (block.takeMessage value).state.latency = block.latency := by
  rw [takeMessage]
  split
  next => rfl
  next => rw [Reply.state_accept, apply_ite latency, latency_finishMessage, ite_self]

theorem latency_takeOperand (block : CryptoBlock) (value : UInt32) :
    (block.takeOperand value).state.latency = block.latency := by
  simp only [takeOperand]
  split
  next => rfl
  next =>
    split
    next => rfl
    next => rw [Reply.state_accept, apply_ite latency, latency_finish, ite_self]

theorem latency_read (block : CryptoBlock) (offset : UInt32) :
    (block.read offset).state.latency = block.latency := by
  rw [read]
  split
  next =>
    rw [readStatus]
    split
    next => rfl
    next => split <;> rfl
  next => rfl
  next => split <;> rfl
  next => rfl
  next => rfl

theorem latency_write (block : CryptoBlock) (offset value : UInt32) :
    (block.write offset value).state.latency = block.latency := by
  rw [write]
  split
  next => exact block.latency_writeControl value
  next =>
    rw [takeWord]
    split
    next => exact block.latency_takeMessage value
    next => exact block.latency_takeOperand value
    next => rfl
  next =>
    rw [announceLength]
    split <;> rfl
  next => rfl
  next => rfl

end CryptoBlock

/-! ## all devices -/

namespace Device

/-- The state that a reset returns the device to. -/
def poweredUp (device : Device) : Device := (device.reset (.fresh 0 0)).1

/-- The board has no part in the state that a reset returns a device to. -/
theorem fst_reset (device : Device) (board : Board) :
    (device.reset board).1 = device.poweredUp := by
  cases device <;> rfl

/-- What a reset of the device makes of the board does not depend on what became of the
device. -/
theorem snd_reset (device : Device) (board : Board) :
    (device.reset board).2 = (device.poweredUp.reset board).2 := by
  cases device <;> rfl

@[simp] theorem poweredUp_poweredUp (device : Device) :
    device.poweredUp.poweredUp = device.poweredUp := by
  cases device with
  | cryptoBlock block =>
      have hlatency : max (max block.latency 1) 1 = max block.latency 1 :=
        Nat.max_eq_left (Nat.le_max_right ..)
      exact congrArg (fun latency => cryptoBlock { latency }) hlatency
  | _ => rfl

theorem poweredUp_read (device : Device) (board : Board) (offset : UInt32) :
    (device.read board offset).state.1.poweredUp = device.poweredUp := by
  cases device with
  | wordBank bank => exact congrArg wordBank (bank.clear_read offset)
  | timers bank => exact congrArg timers (bank.reset_read board.clock offset)
  | reconfig block => exact congrArg reconfig (block.reset_read offset)
  | cryptoBlock block =>
      exact congrArg (fun latency => cryptoBlock (.fresh latency)) (block.latency_read offset)
  | pageMap map => exact congrArg pageMap (map.reset_read offset)
  | pins | serialMemory | mailbox | flashController | flashWindow | latch => rfl

theorem poweredUp_write (device : Device) (board : Board) (offset value : UInt32) :
    (device.write board offset value).state.1.poweredUp = device.poweredUp := by
  cases device with
  | wordBank bank => exact congrArg wordBank (bank.clear_write offset value)
  | timers bank => exact congrArg timers (bank.reset_write board.clock offset value)
  | reconfig block => exact congrArg reconfig (block.reset_write offset value)
  | cryptoBlock block =>
      have hlatency := block.latency_write offset value
      exact congrArg (fun latency => cryptoBlock (.fresh latency)) hlatency
  | pageMap map => exact congrArg pageMap (map.reset_write offset value)
  | pins | serialMemory | mailbox | flashController | flashWindow | latch => rfl

end Device

end BoardSim
