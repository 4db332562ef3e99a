import BoardSim.Proofs.CryptoBlock.Tracking
import BoardSim.Proofs.Device.PowerUp
import BoardSim.Proofs.SerialMemory.Command
import BoardSim.Proofs.Timers.Run

/-!
# BoardSim.Proofs.Device.Safety

No access to a device breaks off.

What could break off rests on what a device has become: how much of a message and how
many operands the crypto block has, where the address of the serial memory points, how
many timers and registers there are.  A device is sound (`Device.Sound`) if what it
rests on holds.  It is so at power-up, and an access leaves it so and ends in an
answer or in a refusal (`Reply.Safe`).
-/

namespace BoardSim

/-! ## safe replies -/

/-- The access did not break off, and the state after it is good. -/
structure Reply.Safe {σ α : Type} (Good : σ → Prop) (reply : Reply σ α) : Prop where
  result : ∀ defect, reply.result ≠ breakOff defect
  state : Good reply.state

namespace Reply

variable {σ α : Type} {Good : σ → Prop}

@[simp] theorem safe_answer (state : σ) (value : α) :
    (answer state value).Safe Good ↔ Good state :=
  ⟨Safe.state, fun h => ⟨fun _ hcrash => (by cases hcrash), h⟩⟩

@[simp] theorem safe_accept (state : σ) : (accept state).Safe Good ↔ Good state :=
  ⟨Safe.state, fun h => ⟨fun _ hcrash => (by cases hcrash), h⟩⟩

@[simp] theorem safe_decline (state : σ) (cause : Violation) :
    (decline state cause : Reply σ α).Safe Good ↔ Good state :=
  ⟨Safe.state, fun h => ⟨fun _ hcrash => (by cases hcrash), h⟩⟩

end Reply

/-! ## the timers -/

namespace Timer

theorem remaining_catchUp_le (timer : Timer) (tick now : Nat) :
    (timer.catchUp tick now).remaining ≤ timer.remaining := by
  simp only [catchUp]
  repeat' split
  all_goals simp

theorem remaining_rewrite (timer : Timer) (value : UInt32) (now : Nat) :
    (timer.rewrite value now).remaining = value.toNat % (1 <<< activeBit) := by
  simp only [rewrite]
  split <;> rfl

end Timer

namespace Timers

/-- There are three timers, each with no more ticks than its word has room for, and a
tick takes time. -/
structure Sound (bank : Timers) : Prop where
  size : bank.timers.length = timerCount
  tick : 0 < bank.tick
  remaining : ∀ timer ∈ bank.timers, timer.remaining < 1 <<< Timer.activeBit

theorem sound_fresh (nanos : Nat) : (fresh nanos).Sound where
  size := List.length_replicate
  tick := Nat.lt_of_lt_of_le Nat.one_pos (Nat.le_max_right nanos 1)
  remaining := by
    intro timer htimer
    obtain rfl := List.eq_of_mem_replicate htimer
    decide

variable {bank : Timers}

theorem Sound.reset (h : bank.Sound) : bank.reset.Sound where
  size := List.length_replicate
  tick := h.tick
  remaining := (sound_fresh 0).remaining

theorem index_lt {offset : UInt32} {index : Nat} (h : indexOf? offset = some index) :
    index < timerCount := by
  rw [indexOf?] at h
  split at h
  next hlt =>
    cases h
    exact hlt
  next => cases h

/-- The bank with a timer replaced that has no more ticks than there is room for. -/
theorem Sound.set (h : bank.Sound) (index : Nat) {timer : Timer}
    (htimer : timer.remaining < 1 <<< Timer.activeBit) :
    Sound { bank with timers := bank.timers.set index timer } where
  size := (List.length_set ..).trans h.size
  tick := h.tick
  remaining := by
    intro other hother
    obtain hold | rfl := List.mem_or_eq_of_mem_set hother
    · exact h.remaining other hold
    · exact htimer

theorem Sound.safe_read (h : bank.Sound) (now : UInt64) (offset : UInt32) :
    (bank.read now offset).Safe Sound := by
  rw [read]
  split
  next => simpa using h
  next index hindex =>
    have hlt : index < bank.timers.length := h.size ▸ index_lt hindex
    rw [readTimer, List.getElem?_eq_getElem hlt]
    refine (Reply.safe_answer ..).mpr (h.set index ?_)
    exact Nat.lt_of_le_of_lt (Timer.remaining_catchUp_le ..)
      (h.remaining _ (List.getElem_mem hlt))

theorem Sound.safe_write (h : bank.Sound) (now : UInt64) (offset value : UInt32) :
    (bank.write now offset value).Safe Sound := by
  rw [write]
  split
  next => simpa using h
  next index hindex =>
    have hlt : index < bank.timers.length := h.size ▸ index_lt hindex
    rw [List.getElem?_eq_getElem hlt]
    refine (Reply.safe_accept _).mpr (h.set index ?_)
    rw [Timer.remaining_rewrite]
    exact Nat.mod_lt _ (by decide)

/-- The ticks that a read takes off a timer fit into a word. -/
theorem Sound.ticks_lt (h : bank.Sound) {timer : Timer} (htimer : timer ∈ bank.timers)
    {ticks : Nat} (hticks : ticks < timer.remaining) : ticks < UInt32.size := by
  have hremaining := h.remaining timer htimer
  have hroom : 1 <<< Timer.activeBit < UInt32.size := by decide
  omega

end Timers

/-! ## the crypto block -/

namespace CryptoBlock

/-- The block is where some record of accesses says. -/
def Sound (block : CryptoBlock) : Prop := ∃ log, Follows log block

theorem sound_fresh (reads : Nat) : (fresh reads).Sound := ⟨{}, follows_fresh reads⟩

variable {block : CryptoBlock}

/-- While a message is awaited, a part of it is missing. -/
theorem Sound.input_lt (h : block.Sound) (hphase : block.phase = .acceptHashData) :
    block.input.length < block.length.toNat := by
  obtain ⟨log, hlog⟩ := h
  cases hlog.tracks with
  | message session hsession _ hshort _ hinput =>
      rw [Session.messageWords] at hshort
      rw [hinput, Bytes.length_expand, hlog.length, ← hlog.session session hsession]
      omega
  | idle _ hother | operands _ _ hother | complete _ _ hother =>
      rw [hphase] at hother
      cases hother

/-- While operands are awaited, one of the nine is missing, those that are there have
32 bytes, and a whole word of the next is missing. -/
theorem Sound.operands_lt (h : block.Sound) (hphase : block.phase = .acceptVerifyData) :
    block.operands.length < operandCount ∧
      (∀ operand ∈ block.operands, operand.length = operandWidth) ∧
      block.operandBytes.length + 4 ≤ operandWidth := by
  obtain ⟨log, hlog⟩ := h
  cases hlog.tracks with
  | operands session _ _ hverify _ hlong hshort _ hoperands hbytes =>
      rw [session.wordCount_verify hverify] at hshort
      -- the complete operands take up no more words than have followed the message
      have hcount := Nat.div_mul_le_self (session.words.length - session.messageWords)
        Session.wordsPerOperand
      refine ⟨?_, ?_, ?_⟩
      · rw [hoperands, List.length_map, List.length_range]
        exact Nat.div_lt_of_lt_mul (by omega)
      · intro operand hmem
        rw [hoperands] at hmem
        obtain ⟨i, hi, rfl⟩ := List.mem_map.mp hmem
        rw [List.mem_range] at hi
        rw [Session.wordsPerOperand] at hi hcount
        rw [Session.operand, Bytes.length_expand, List.length_take, List.length_drop,
          Session.wordsPerOperand, operandWidth]
        omega
      · rw [hbytes, Bytes.length_expand, List.length_drop, Session.wordsPerOperand, operandWidth]
        omega
  | idle _ hother | message _ _ hother | complete _ _ hother =>
      rw [hphase] at hother
      cases hother

theorem safe_readStatus (block : CryptoBlock) : block.readStatus.Safe fun _ => True := by
  rw [readStatus]
  repeat' split
  all_goals simp

theorem Sound.safe_read (h : block.Sound) (offset : UInt32) : (block.read offset).Safe Sound where
  result := by
    have hsafe : (block.read offset).Safe fun _ => True := by
      rw [read]
      split
      next => exact block.safe_readStatus
      next => simp
      next => split <;> simp
      next => simp
      next => simp
    exact hsafe.result
  state := by
    obtain ⟨log, hlog⟩ := h
    exact ⟨_, follows_read hlog offset⟩

theorem safe_startSession (block : CryptoBlock) (mode : Mode) :
    (block.startSession mode).Safe fun _ => True := by
  rw [startSession]
  split <;> simp

theorem safe_writeControl (block : CryptoBlock) (value : UInt32) :
    (block.writeControl value).Safe fun _ => True := by
  rw [writeControl]
  split <;> simp [safe_startSession]

/-- A word of a message or of an operand finds room. -/
theorem Sound.safe_takeWord (h : block.Sound) (value : UInt32) :
    (block.takeWord value).Safe fun _ => True := by
  rw [takeWord]
  split
  next hphase =>
    rw [takeMessage, if_neg (Nat.not_lt_of_lt (h.input_lt hphase))]
    simp
  next hphase =>
    have hcount : ¬ operandCount ≤ block.operands.length :=
      Nat.not_le_of_lt (h.operands_lt hphase).1
    simp only [takeOperand, if_neg hcount]
    split <;> simp
  next => simp

theorem Sound.safe_write (h : block.Sound) (offset value : UInt32) :
    (block.write offset value).Safe Sound where
  result := by
    have hsafe : (block.write offset value).Safe fun _ => True := by
      rw [write]
      split
      next => exact block.safe_writeControl value
      next => exact h.safe_takeWord value
      next =>
        rw [announceLength]
        split <;> simp
      next => simp
      next => simp
    exact hsafe.result
  state := by
    obtain ⟨log, hlog⟩ := h
    exact ⟨_, follows_write hlog offset value⟩

end CryptoBlock

/-! ## the serial memory -/

namespace SerialMemory

variable {memory : SerialMemory}

/-- The address lies in the store, so the byte at it is there. -/
theorem Sound.address_lt (h : memory.Sound) : memory.address < memory.store.length :=
  h.size ▸ h.address

theorem Sound.transfer_ne (h : memory.Sound) (start : Bool) (byte : UInt8) (defect : Defect) :
    memory.transfer start byte ≠ breakOff defect := by
  simp only [SerialMemory.transfer, h.address_lt, List.getElem?_eq_getElem, if_true]
  split <;> simp [breakOff]

theorem Sound.obey_ne (h : memory.Sound) (command : Command) (defect : Defect) :
    memory.obey command ≠ breakOff defect := by
  have htransfer := h.transfer_ne command.start command.byte defect
  rw [SerialMemory.obey]
  cases hmoved : memory.transfer command.start command.byte with
  | ok moved => simp [breakOff, Except.map]
  | error failure =>
      rw [hmoved] at htransfer
      exact htransfer

theorem Sound.safe_enqueue (h : memory.Sound) (word : UInt32) :
    (memory.enqueue word).Safe Sound where
  result := by
    intro defect
    have hobey := h.obey_ne (.ofWord word) defect
    rw [SerialMemory.enqueue, h.commands, List.nil_append, runAll, run_eq_obey]
    cases hok : memory.obey (.ofWord word) with
    | ok after => simp [runAll, breakOff]
    | error failure =>
        cases failure with
        | refused cause => simp [breakOff]
        | broken other => simpa [hok, breakOff] using hobey
  state := h.enqueue word

theorem Sound.safe_read (h : memory.Sound) (offset : UInt32) :
    (memory.read offset).Safe Sound where
  result := by
    have hsafe : (memory.read offset).Safe fun _ => True := by
      rw [SerialMemory.read]
      split
      next => simp
      next => split <;> simp
      all_goals simp
    exact hsafe.result
  state := h.read offset

theorem Sound.safe_write (h : memory.Sound) (offset value : UInt32) :
    (memory.write offset value).Safe Sound := by
  have hwrite := h.write offset value
  rw [SerialMemory.write] at hwrite ⊢
  split at hwrite
  next => exact h.safe_enqueue value
  all_goals simpa using hwrite

end SerialMemory

/-! ## the flash controller -/

namespace FlashController

/-- The bank has all its registers. -/
def Sound (controller : FlashController) : Prop := controller.registers.length = registerCount

theorem sound_fresh : fresh.Sound := List.length_replicate

variable {controller : FlashController}

/-- The registers of the bank lie at the offsets up to the last. -/
theorem Sound.index_lt (h : controller.Sound) {offset : UInt32} (hoffset : offset ≤ dataHigh) :
    offset.toNat / 4 < controller.registers.length := by
  have hle : offset.toNat ≤ 0x34 := UInt32.le_iff_toNat_le.mp hoffset
  rw [h, registerCount]
  omega

theorem Sound.get?_eq (h : controller.Sound) {offset : UInt32} (hoffset : offset ≤ dataHigh) :
    ∃ value, controller.get? offset = some value :=
  ⟨_, List.getElem?_eq_getElem (h.index_lt hoffset)⟩

theorem Sound.set (h : controller.Sound) (offset value : UInt32) :
    (controller.set offset value).Sound :=
  (List.length_set ..).trans h

theorem Sound.withLatch (h : controller.Sound) (value : Bool) (chip : Flash.Chip) :
    (controller.withLatch value chip).Sound := by
  cases chip <;> exact h

theorem Sound.safe_read (h : controller.Sound) (offset : UInt32) :
    (controller.read offset).Safe Sound := by
  rw [read]
  split
  next => simpa using h
  next =>
    split
    next hoffset =>
      obtain ⟨value, hvalue⟩ := h.get?_eq hoffset
      simpa [hvalue] using h
    next => simpa using h

theorem Sound.safe_erase (h : controller.Sound) (board : Board) (address : UInt32) (length : Nat)
    {count : FlashController → FlashController}
    (hcount : ∀ after, after.Sound → (count after).Sound) :
    (controller.erase board address length count).Safe fun state => state.1.Sound := by
  rw [erase]
  split
  next => simpa using h
  next => simpa using hcount _ (h.withLatch false _)

theorem Sound.safe_execute (h : controller.Sound) (board : Board) :
    (controller.execute board).Safe fun state => state.1.Sound := by
  obtain ⟨setting, hsetting⟩ := h.get?_eq (show commandSetting ≤ dataHigh by decide)
  obtain ⟨address, haddress⟩ := h.get?_eq (show commandAddress ≤ dataHigh by decide)
  simp only [execute, hsetting, haddress]
  split
  next => exact h.safe_erase board address sectorSize fun _ hafter => hafter
  next => exact h.safe_erase board address blockSize fun _ hafter => hafter
  next => simpa using h.withLatch true _
  next => simpa using h.withLatch false _
  next => simpa using h.set dataLow _
  next => simpa using h.set dataLow chipId
  next => simpa using h

theorem Sound.safe_write (h : controller.Sound) (board : Board) (offset value : UInt32) :
    (controller.write board offset value).Safe fun state => state.1.Sound := by
  rw [write]
  split
  next =>
    split
    next => exact h.safe_execute board
    next => simpa using h
  next =>
    split
    next => simpa using h
    next =>
      split
      next hoffset => simpa [h.index_lt hoffset] using h.set offset value
      next => simpa using h

end FlashController

/-! ## the devices that rest on nothing -/

theorem WordBank.safe_read (bank : WordBank) (offset : UInt32) :
    (bank.read offset).Safe fun _ => True := by
  rw [read]
  split <;> simp

theorem WordBank.safe_write (bank : WordBank) (offset value : UInt32) :
    (bank.write offset value).Safe fun _ => True := by
  rw [write]
  split <;> simp

theorem PinRegisters.safe_read (pins : Pins) (offset : UInt32) :
    (PinRegisters.read pins offset).Safe fun _ => True := by
  rw [PinRegisters.read]
  split <;> simp

theorem PinRegisters.safe_write (pins : Pins) (offset value : UInt32) :
    (PinRegisters.write pins offset value).Safe fun _ => True := by
  rw [PinRegisters.write]
  split <;> simp

theorem Reconfig.safe_read (block : Reconfig) (offset : UInt32) :
    (block.read offset).Safe fun _ => True := by
  rw [read]
  split <;> simp

theorem Reconfig.safe_runCommand (block : Reconfig) (command : Command)
    (effect : Reconfig → Reconfig) : (block.runCommand command effect).Safe fun _ => True := by
  rw [runCommand]
  split <;> simp

theorem Reconfig.safe_write (block : Reconfig) (offset value : UInt32) :
    (block.write offset value).Safe fun _ => True := by
  rw [write]
  split <;> simp [safe_runCommand]

theorem Mailbox.safe_read (box : Mailbox) (offset : UInt32) :
    (box.read offset).Safe fun _ => True := by
  have hplain : (box.readPlain offset).Safe fun _ => True :=
    ⟨(box.registers.safe_read offset).result, trivial⟩
  rw [read]
  split
  next => simp
  next => split <;> simp
  next => exact hplain
  next => exact hplain

theorem Mailbox.safe_write (box : Mailbox) (offset value : UInt32) :
    (box.write offset value).Safe fun _ => True := by
  rw [write]
  split
  next => simp
  next => simp
  next => simp
  next => exact ⟨(box.registers.safe_write offset value).result, trivial⟩

theorem PageMap.safe_read (map : PageMap) (offset : UInt32) :
    (map.read offset).Safe fun _ => True := by
  rw [read]
  split <;> simp

theorem PageMap.safe_write (map : PageMap) (offset value : UInt32) :
    (map.write offset value).Safe fun _ => True := by
  rw [write]
  split <;> simp

theorem FlashWindow.safe_read (board : Board) (offset : UInt32) :
    (FlashWindow.read board offset).Safe fun _ => True := by
  rw [FlashWindow.read]
  split <;> simp

theorem FlashWindow.safe_write (board : Board) (offset value : UInt32) :
    (FlashWindow.write board offset value).Safe fun _ => True := by
  rw [FlashWindow.write]
  split <;> simp

/-! ## all devices -/

namespace Device

/-- What the device rests on holds. -/
def Sound : Device → Prop
  | .timers bank => bank.Sound
  | .cryptoBlock block => block.Sound
  | .serialMemory memory => memory.Sound
  | .flashController controller => controller.Sound
  | .wordBank _ | .pins | .reconfig _ | .mailbox _ | .pageMap _ | .flashWindow | .latch _ => True

variable {device : Device}

/-- **Step**: a read does not break off and leaves the device sound. -/
theorem Sound.safe_read (h : device.Sound) (board : Board) (offset : UInt32) :
    (device.read board offset).Safe fun state => state.1.Sound := by
  cases device with
  | timers bank =>
      have hsafe := Timers.Sound.safe_read h board.clock offset
      exact ⟨hsafe.result, hsafe.state⟩
  | cryptoBlock block =>
      have hsafe := CryptoBlock.Sound.safe_read h offset
      exact ⟨hsafe.result, hsafe.state⟩
  | serialMemory memory =>
      have hsafe := SerialMemory.Sound.safe_read h offset
      exact ⟨hsafe.result, hsafe.state⟩
  | flashController controller =>
      have hsafe := FlashController.Sound.safe_read h offset
      exact ⟨hsafe.result, hsafe.state⟩
  | wordBank bank => exact ⟨(bank.safe_read offset).result, trivial⟩
  | pins => exact ⟨(PinRegisters.safe_read board.pins offset).result, trivial⟩
  | reconfig block => exact ⟨(block.safe_read offset).result, trivial⟩
  | mailbox box => exact ⟨(box.safe_read offset).result, trivial⟩
  | pageMap map => exact ⟨(map.safe_read offset).result, trivial⟩
  | flashWindow => exact ⟨(FlashWindow.safe_read board offset).result, trivial⟩
  | latch word => exact (Reply.safe_answer ..).mpr trivial

/-- **Step**: a write does not break off and leaves the device sound. -/
theorem Sound.safe_write (h : device.Sound) (board : Board) (offset value : UInt32) :
    (device.write board offset value).Safe fun state => state.1.Sound := by
  cases device with
  | timers bank =>
      have hsafe := Timers.Sound.safe_write h board.clock offset value
      exact ⟨hsafe.result, hsafe.state⟩
  | cryptoBlock block =>
      have hsafe := CryptoBlock.Sound.safe_write h offset value
      exact ⟨hsafe.result, hsafe.state⟩
  | serialMemory memory =>
      have hsafe := SerialMemory.Sound.safe_write h offset value
      exact ⟨hsafe.result, hsafe.state⟩
  | flashController controller =>
      have hsafe := FlashController.Sound.safe_write h board offset value
      exact ⟨hsafe.result, hsafe.state⟩
  | wordBank bank => exact ⟨(bank.safe_write offset value).result, trivial⟩
  | pins => exact ⟨(PinRegisters.safe_write board.pins offset value).result, trivial⟩
  | reconfig block => exact ⟨(block.safe_write offset value).result, trivial⟩
  | mailbox box => exact ⟨(box.safe_write offset value).result, trivial⟩
  | pageMap map => exact ⟨(map.safe_write offset value).result, trivial⟩
  | flashWindow => exact ⟨(FlashWindow.safe_write board offset value).result, trivial⟩
  | latch word => exact (Reply.safe_accept _).mpr trivial

/-- A reset leaves the device sound. -/
theorem Sound.poweredUp (h : device.Sound) : device.poweredUp.Sound := by
  cases device with
  | timers bank => exact Timers.Sound.reset h
  | cryptoBlock block => exact CryptoBlock.sound_fresh block.latency
  | serialMemory memory => exact SerialMemory.sound_fresh
  | flashController controller => exact FlashController.sound_fresh
  | _ => trivial

end Device

end BoardSim
