import BoardSim.Device
import BoardSim.Proofs.Device.Run

/-!
# BoardSim.Proofs.Device.Refusal

A device that turns an access down is left as it was.

The reply to an access carries the state after it also where the access is refused,
and nothing in its type keeps that state from having changed on the way.  That it
never has is the property `Untouched` of replies.  It holds of each way to reply,
is passed on by `mapState`, and so follows for each register decoder from its
branches: whichever of them refuses does so before it changes anything.
-/

namespace BoardSim

/-- If the access is refused, the reply gives back the state `before` it. -/
def Reply.Untouched {σ α : Type} (before : σ) (reply : Reply σ α) : Prop :=
  ∀ cause, reply.result = refuse cause → reply.state = before

namespace Reply

variable {σ τ α : Type}

theorem untouched_of_ok {before : σ} {reply : Reply σ α} {value : α}
    (h : reply.result = .ok value) : reply.Untouched before := by
  intro cause hrefused
  rw [h] at hrefused
  cases hrefused

@[simp] theorem untouched_answer (before after : σ) (value : α) :
    (answer after value).Untouched before := untouched_of_ok rfl

@[simp] theorem untouched_accept (before after : σ) : (accept after).Untouched before :=
  untouched_of_ok rfl

@[simp] theorem untouched_decline (before : σ) (cause : Violation) :
    (decline before cause : Reply σ α).Untouched before := fun _ _ => rfl

@[simp] theorem untouched_crash (before : σ) (defect : Defect) :
    (crash before defect : Reply σ α).Untouched before := fun _ _ => rfl

theorem Untouched.mapState {before : σ} {reply : Reply σ α} (h : reply.Untouched before)
    (f : σ → τ) : (reply.mapState f).Untouched (f before) := by
  intro cause hrefused
  rw [state_mapState, h cause hrefused]

end Reply

/-- Only a refusal is turned into a refusal by mapping what is given. -/
theorem eq_refuse_of_map {ε α β : Type} {f : α → β} {result : Except (Failure ε) α} {cause : ε}
    (h : result.map f = refuse cause) : result = refuse cause := by
  cases result with
  | ok value => cases h
  | error failure =>
      cases h
      rfl

/-- A device that leaves no trace of refused reads and writes leaves none of any
refused access. -/
theorem RegisterDevice.untouched_perform {σ : Type} [RegisterDevice σ] {device : σ}
    (hread : ∀ offset, (readAt device offset).Untouched device)
    (hwrite : ∀ offset value, (writeAt device offset value).Untouched device)
    (access : DeviceAccess) : (perform device access).Untouched device := by
  intro cause hrefused
  cases access with
  | read offset => exact hread offset cause (eq_refuse_of_map hrefused)
  | write offset value => exact hwrite offset value cause (eq_refuse_of_map hrefused)
  | reset => cases hrefused

/-! ## the register decoders -/

theorem WordBank.untouched_read (bank : WordBank) (offset : UInt32) :
    (bank.read offset).Untouched bank := by
  rw [read]
  split <;> simp

theorem WordBank.untouched_write (bank : WordBank) (offset value : UInt32) :
    (bank.write offset value).Untouched bank := by
  rw [write]
  split <;> simp

theorem PinRegisters.untouched_read (pins : Pins) (offset : UInt32) :
    (PinRegisters.read pins offset).Untouched pins := by
  rw [PinRegisters.read]
  split <;> simp

theorem PinRegisters.untouched_write (pins : Pins) (offset value : UInt32) :
    (PinRegisters.write pins offset value).Untouched pins := by
  rw [PinRegisters.write]
  split <;> simp

theorem Timers.untouched_read (bank : Timers) (now : UInt64) (offset : UInt32) :
    (bank.read now offset).Untouched bank := by
  rw [read]
  split
  next => simp
  next =>
    rw [readTimer]
    split <;> simp

theorem Timers.untouched_write (bank : Timers) (now : UInt64) (offset value : UInt32) :
    (bank.write now offset value).Untouched bank := by
  rw [write]
  split
  next => simp
  next => split <;> simp

theorem Reconfig.untouched_read (block : Reconfig) (offset : UInt32) :
    (block.read offset).Untouched block := by
  rw [read]
  split <;> simp

theorem Reconfig.untouched_runCommand (block : Reconfig) (command : Command)
    (effect : Reconfig → Reconfig) : (block.runCommand command effect).Untouched block := by
  rw [runCommand]
  split <;> simp

theorem Reconfig.untouched_write (block : Reconfig) (offset value : UInt32) :
    (block.write offset value).Untouched block := by
  rw [write]
  split <;> simp [untouched_runCommand]

theorem PageMap.untouched_read (map : PageMap) (offset : UInt32) :
    (map.read offset).Untouched map := by
  rw [read]
  split <;> simp

theorem PageMap.untouched_write (map : PageMap) (offset value : UInt32) :
    (map.write offset value).Untouched map := by
  rw [write]
  split <;> simp

theorem FlashWindow.untouched_read (board : Board) (offset : UInt32) :
    (FlashWindow.read board offset).Untouched board := by
  rw [FlashWindow.read]
  split <;> simp

theorem FlashWindow.untouched_write (board : Board) (offset value : UInt32) :
    (FlashWindow.write board offset value).Untouched board := by
  rw [FlashWindow.write]
  split <;> simp

/-! ### the mailbox -/

theorem Mailbox.untouched_readPlain (box : Mailbox) (offset : UInt32) :
    (box.readPlain offset).Untouched box :=
  (box.registers.untouched_read offset).mapState fun bank => { box with registers := bank }

theorem Mailbox.untouched_read (box : Mailbox) (offset : UInt32) :
    (box.read offset).Untouched box := by
  rw [read]
  split
  next => simp
  next => split <;> simp
  next => exact box.untouched_readPlain offset
  next => exact box.untouched_readPlain offset

theorem Mailbox.untouched_write (box : Mailbox) (offset value : UInt32) :
    (box.write offset value).Untouched box := by
  rw [write]
  split
  next => simp
  next => simp
  next => simp
  next =>
    exact (box.registers.untouched_write offset value).mapState fun bank =>
      { box with registers := bank }

/-! ### the crypto block -/

theorem CryptoBlock.untouched_read (block : CryptoBlock) (offset : UInt32) :
    (block.read offset).Untouched block := by
  rw [read]
  split
  next =>
    rw [readStatus]
    split
    next => simp
    next => split <;> simp
  next => simp
  next => split <;> simp
  next => simp
  next => simp

theorem CryptoBlock.untouched_startSession (block : CryptoBlock) (mode : Mode) :
    (block.startSession mode).Untouched block := by
  rw [startSession]
  split <;> simp

theorem CryptoBlock.untouched_writeControl (block : CryptoBlock) (value : UInt32) :
    (block.writeControl value).Untouched block := by
  rw [writeControl]
  split <;> simp [untouched_startSession]

theorem CryptoBlock.untouched_takeMessage (block : CryptoBlock) (value : UInt32) :
    (block.takeMessage value).Untouched block := by
  rw [takeMessage]
  split <;> simp

theorem CryptoBlock.untouched_takeOperand (block : CryptoBlock) (value : UInt32) :
    (block.takeOperand value).Untouched block := by
  simp only [takeOperand]
  split
  next => simp
  next => split <;> simp

theorem CryptoBlock.untouched_write (block : CryptoBlock) (offset value : UInt32) :
    (block.write offset value).Untouched block := by
  rw [write]
  split
  next => exact block.untouched_writeControl value
  next =>
    rw [takeWord]
    split
    next => exact block.untouched_takeMessage value
    next => exact block.untouched_takeOperand value
    next => simp
  next =>
    rw [announceLength]
    split <;> simp
  next => simp
  next => simp

/-! ### the serial memory -/

/-- A command is carried out or breaks off. -/
theorem SerialMemory.run_ne_refuse (memory : SerialMemory) (word : UInt32) (cause : Violation) :
    memory.run word ≠ refuse cause := by
  have htransfer : memory.transfer (hasBit word startBit) word.toUInt8 ≠ refuse cause := by
    simp only [transfer]
    split
    all_goals (first | split | skip)
    all_goals simp [refuse, breakOff]
  rw [run]
  cases h : memory.transfer (hasBit word startBit) word.toUInt8 with
  | ok after => simp [bind, Except.bind, refuse]
  | error failure =>
      rw [h] at htransfer
      exact htransfer

theorem SerialMemory.runAll_ne_refuse (memory : SerialMemory) (words : List UInt32)
    (cause : Violation) : (memory.runAll words).result ≠ refuse cause := by
  induction words generalizing memory with
  | nil => simp [runAll, refuse]
  | cons word rest ih =>
      rw [runAll]
      cases h : memory.run word with
      | ok after => exact ih after
      | error failure => simpa [h, refuse] using memory.run_ne_refuse word cause

theorem SerialMemory.untouched_read (memory : SerialMemory) (offset : UInt32) :
    (memory.read offset).Untouched memory := by
  rw [read]
  split
  next => simp
  next => split <;> simp
  all_goals simp

theorem SerialMemory.untouched_write (memory : SerialMemory) (offset value : UInt32) :
    (memory.write offset value).Untouched memory := by
  rw [write]
  split
  next =>
    intro cause hrefused
    exact absurd hrefused (memory.runAll_ne_refuse _ cause)
  all_goals simp

/-! ### the flash controller -/

theorem FlashController.untouched_read (controller : FlashController) (offset : UInt32) :
    (controller.read offset).Untouched controller := by
  rw [read]
  split
  next => simp
  next =>
    split
    next => split <;> simp
    next => simp

theorem FlashController.untouched_erase (controller : FlashController) (board : Board)
    (address : UInt32) (length : Nat) (count : FlashController → FlashController) :
    (controller.erase board address length count).Untouched (controller, board) := by
  rw [erase]
  split <;> simp

theorem FlashController.untouched_execute (controller : FlashController) (board : Board) :
    (controller.execute board).Untouched (controller, board) := by
  rw [execute]
  split
  next => split <;> simp [untouched_erase]
  next => simp

theorem FlashController.untouched_write (controller : FlashController) (board : Board)
    (offset value : UInt32) :
    (controller.write board offset value).Untouched (controller, board) := by
  rw [write]
  split
  next => split <;> simp [untouched_execute]
  next =>
    split
    next => simp
    next =>
      split
      next => split <;> simp
      next => simp

/-! ## all devices -/

theorem Device.untouched_read (device : Device) (board : Board) (offset : UInt32) :
    (device.read board offset).Untouched (device, board) := by
  cases device with
  | wordBank bank => exact (bank.untouched_read offset).mapState fun s => (wordBank s, board)
  | pins =>
      exact (PinRegisters.untouched_read board.pins offset).mapState fun s =>
        (pins, { board with pins := s })
  | timers bank =>
      exact (bank.untouched_read board.clock offset).mapState fun s => (timers s, board)
  | reconfig block => exact (block.untouched_read offset).mapState fun s => (reconfig s, board)
  | cryptoBlock block =>
      exact (block.untouched_read offset).mapState fun s => (cryptoBlock s, board)
  | serialMemory memory =>
      exact (memory.untouched_read offset).mapState fun s => (serialMemory s, board)
  | mailbox box => exact (box.untouched_read offset).mapState fun s => (mailbox s, board)
  | flashController controller =>
      exact (controller.untouched_read offset).mapState fun s => (flashController s, board)
  | pageMap map => exact (map.untouched_read offset).mapState fun s => (pageMap s, board)
  | flashWindow =>
      exact (FlashWindow.untouched_read board offset).mapState fun s => (flashWindow, s)
  | latch word => exact Reply.untouched_answer _ _ _

theorem Device.untouched_write (device : Device) (board : Board) (offset value : UInt32) :
    (device.write board offset value).Untouched (device, board) := by
  cases device with
  | wordBank bank =>
      exact (bank.untouched_write offset value).mapState fun s => (wordBank s, board)
  | pins =>
      exact (PinRegisters.untouched_write board.pins offset value).mapState fun s =>
        (pins, { board with pins := s })
  | timers bank =>
      exact (bank.untouched_write board.clock offset value).mapState fun s => (timers s, board)
  | reconfig block =>
      exact (block.untouched_write offset value).mapState fun s => (reconfig s, board)
  | cryptoBlock block =>
      exact (block.untouched_write offset value).mapState fun s => (cryptoBlock s, board)
  | serialMemory memory =>
      exact (memory.untouched_write offset value).mapState fun s => (serialMemory s, board)
  | mailbox box => exact (box.untouched_write offset value).mapState fun s => (mailbox s, board)
  | flashController controller =>
      exact (controller.untouched_write board offset value).mapState fun s =>
        (flashController s.1, s.2)
  | pageMap map => exact (map.untouched_write offset value).mapState fun s => (pageMap s, board)
  | flashWindow =>
      exact (FlashWindow.untouched_write board offset value).mapState fun s => (flashWindow, s)
  | latch word => exact Reply.untouched_accept _ _

end BoardSim
