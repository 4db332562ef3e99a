import BoardSim.Proofs.CryptoBlock.StatusReads
import BoardSim.Proofs.Device.Footprint
import BoardSim.Proofs.Device.Safety
import BoardSim.Proofs.FlashController.Commands
import BoardSim.Proofs.Mailbox.Queues
import BoardSim.Proofs.Reconfig.Commands
import BoardSim.Proofs.SerialMemory.Transcript
import BoardSim.Proofs.Timers.Countdown

/-!
# BoardSim.Proofs.Device.ReadEffects

What a read changes, and the writes that change nothing.

A read leaves the board alone, and in five cases it changes its device (`ReadChanges`): it
counts towards the end of a session, takes a byte from one of two queues, counts down a busy
block, or brings a timer up to the clock.  `readChanges_iff` says that these are all cases,
that a read has this effect in each of them, and that the effect is one.

A write to a register that can only be read and ignores writes (`readOnlyOffsets`) is accepted
and leaves the device and the board as they were (`write_of_readOnly`).
-/

namespace BoardSim

/-! ## timers that are brought up to the clock -/

/-- A timer is changed if it counts and a whole tick has passed. -/
theorem Timer.catchUp_ne_self_iff (timer : Timer) {tick : Nat} (htick : 0 < tick) (now : Nat) :
    timer.catchUp tick now ≠ timer ↔
      timer.isRunning = true ∧ tick ≤ now - timer.reference := by
  cases hrunning : timer.isRunning with
  | false => simp [catchUp, hrunning]
  | true =>
      obtain ⟨hactive, hremaining⟩ : timer.active = true ∧ 0 < timer.remaining := by
        simpa [isRunning] using hrunning
      have hpassed : 0 < (now - timer.reference) / tick ↔ tick ≤ now - timer.reference :=
        Nat.div_pos_iff.trans (and_iff_right htick)
      rw [← hpassed, eq_self_iff_true, true_and]
      obtain ⟨hall, hnext⟩ | ⟨hsome, hleft, hnext⟩ | ⟨hnone, hnext⟩ :=
        catchUp_cases hactive hremaining tick now
      · have hticks := Nat.lt_of_lt_of_le hremaining hall
        have hchanged : timer.catchUp tick now ≠ timer := fun heq => by
          have hzero := congrArg Timer.remaining (hnext.symm.trans heq)
          exact Nat.ne_of_lt hremaining hzero
        exact iff_of_true hchanged hticks
      · have hchanged : timer.catchUp tick now ≠ timer := fun heq => by
          have hsame := congrArg Timer.remaining (hnext.symm.trans heq)
          have hless := Nat.sub_lt hremaining hsome
          exact Nat.ne_of_lt hless hsame
        exact iff_of_true hchanged hsome
      · exact iff_of_false (not_not_intro hnext) (by omega)

namespace Timers

/-- A read brings its timer up to the clock and leaves the others. -/
theorem state_read {bank : Timers} {offset : UInt32} {index : Nat} {timer : Timer}
    (hindex : indexOf? offset = some index) (htimer : bank.timers[index]? = some timer)
    (now : UInt64) :
    (bank.read now offset).state =
      { bank with timers := bank.timers.set index (timer.catchUp bank.tick now.toNat) } := by
  rw [read, hindex]
  simp only [readTimer, htimer]
  rfl

theorem state_read_of_none {offset : UInt32} (hindex : indexOf? offset = none) (bank : Timers)
    (now : UInt64) : (bank.read now offset).state = bank := by
  rw [read, hindex]
  rfl

/-- To put a changed timer into the bank changes the bank. -/
theorem set_eq_self_iff {bank : Timers} {index : Nat} {timer : Timer}
    (htimer : bank.timers[index]? = some timer) (next : Timer) :
    { bank with timers := bank.timers.set index next } = bank ↔ next = timer := by
  obtain ⟨hlt, hget⟩ := List.getElem?_eq_some_iff.mp htimer
  constructor
  · intro hsame
    have htimers : bank.timers.set index next = bank.timers := congrArg Timers.timers hsame
    have hread := congrArg (·[index]?) htimers
    rw [List.getElem?_set_self hlt, htimer] at hread
    exact Option.some.inj hread
  · rintro rfl
    rw [← hget, List.set_getElem_self]

end Timers

/-! ## reads without an effect -/

/-- To take a byte from a queue changes it. -/
theorem tail_ne_self {bytes : List UInt8} (h : bytes ≠ []) : bytes.tail ≠ bytes := by
  obtain ⟨byte, rest, rfl⟩ := List.exists_cons_of_ne_nil h
  exact (List.cons_ne_self byte rest).symm

namespace Device

/-! ## what a read changes -/

/-- A read at the offset changes the first device into the second. -/
inductive ReadChanges (board : Board) : (offset : UInt32) → Device → Device → Prop where
  /-- The status register counts down to showing the end of a session. -/
  | status {block : CryptoBlock} (hphase : block.phase = .done)
      (hcount : block.readsUntilDone ≠ 0) :
      ReadChanges board 0x00 (.cryptoBlock block)
        (.cryptoBlock { block with readsUntilDone := block.readsUntilDone - 1 })
  /-- The receive register hands out the oldest byte. -/
  | fetch {memory : SerialMemory} (hwaiting : memory.received ≠ []) :
      ReadChanges board 0x04 (.serialMemory memory)
        (.serialMemory { memory with received := memory.received.tail })
  /-- The busy register counts down. -/
  | poll {block : Reconfig} (hbusy : block.isBusy = true) :
      ReadChanges board 0x0C (.reconfig block)
        (.reconfig { block with busyRemaining := block.busyRemaining - 1 })
  /-- A timer that counts is brought up to the clock if a whole tick has passed. -/
  | timer {bank : Timers} {offset : UInt32} {index : Nat} {timer : Timer}
      (hindex : Timers.indexOf? offset = some index) (htimer : bank.timers[index]? = some timer)
      (hrunning : timer.isRunning = true)
      (hpassed : bank.tick ≤ board.clock.toNat - timer.reference) :
      ReadChanges board offset (.timers bank)
        (.timers { bank with
          timers := bank.timers.set index (timer.catchUp bank.tick board.clock.toNat) })
  /-- The mailbox hands out the oldest byte of the host. -/
  | take {box : Mailbox} (hwaiting : box.incoming ≠ []) :
      ReadChanges board 0x38 (.mailbox box) (.mailbox { box with incoming := box.incoming.tail })

variable {device after : Device} {board : Board} {offset : UInt32}

/-- What a read is said to change it leaves so, and it was not so before. -/
theorem ReadChanges.state_read (h : device.Sound)
    (hchanges : ReadChanges board offset device after) :
    (device.read board offset).state.1 = after ∧ after ≠ device := by
  cases hchanges with
  | @status block hphase hcount =>
      refine ⟨congrArg Device.cryptoBlock (CryptoBlock.state_readStatus hphase), fun hsame => ?_⟩
      have hkept : block.readsUntilDone - 1 = block.readsUntilDone :=
        congrArg CryptoBlock.readsUntilDone (Device.cryptoBlock.inj hsame)
      omega
  | @fetch memory hwaiting =>
      refine ⟨congrArg Device.serialMemory memory.state_fetch, fun hsame => ?_⟩
      exact tail_ne_self hwaiting
        (congrArg SerialMemory.received (Device.serialMemory.inj hsame))
  | @poll block hbusy =>
      refine ⟨rfl, fun hsame => ?_⟩
      have hpositive : 0 < block.busyRemaining := by simpa [Reconfig.isBusy] using hbusy
      have hkept : block.busyRemaining - 1 = block.busyRemaining :=
        congrArg Reconfig.busyRemaining (Device.reconfig.inj hsame)
      omega
  | @timer bank offset index timer hindex htimer hrunning hpassed =>
      refine ⟨congrArg Device.timers (Timers.state_read hindex htimer board.clock),
        fun hsame => ?_⟩
      have hbank : bank.Sound := h
      have hkept := (Timers.set_eq_self_iff htimer _).mp (Device.timers.inj hsame)
      exact (timer.catchUp_ne_self_iff hbank.tick _).mpr ⟨hrunning, hpassed⟩ hkept
  | @take box hwaiting =>
      refine ⟨congrArg Device.mailbox box.state_fetch, fun hsame => ?_⟩
      exact tail_ne_self hwaiting (congrArg Mailbox.incoming (Device.mailbox.inj hsame))

/-! ## that it changes nothing else

For each device with an effect: beside its own offset, and where there is nothing to count or
to hand out, a read leaves the device as it found it. -/

theorem readChanges_cryptoBlock {block : CryptoBlock} (hne : (block.read offset).state ≠ block) :
    ReadChanges board offset (.cryptoBlock block) (.cryptoBlock (block.read offset).state) := by
  obtain rfl : offset = 0x00 := Decidable.byContradiction fun hother =>
    hne (CryptoBlock.state_read hother block)
  have hphase : block.phase = .done := Decidable.byContradiction fun hopen =>
    hne (CryptoBlock.state_readStatus_of_ne hopen)
  have hstate : (block.read 0x00).state =
      { block with readsUntilDone := block.readsUntilDone - 1 } :=
    CryptoBlock.state_readStatus hphase
  rw [hstate] at hne ⊢
  refine .status hphase fun hzero => hne ?_
  rw [hzero, Nat.zero_sub, ← hzero]

theorem readChanges_serialMemory {memory : SerialMemory}
    (hne : (memory.read offset).state ≠ memory) :
    ReadChanges board offset (.serialMemory memory) (.serialMemory (memory.read offset).state) := by
  obtain rfl : offset = 0x04 := Decidable.byContradiction fun hother =>
    hne (memory.state_read hother)
  rw [memory.state_fetch] at hne ⊢
  refine .fetch fun hempty => hne ?_
  rw [hempty, List.tail_nil, ← hempty]

theorem readChanges_reconfig {block : Reconfig} (hne : (block.read offset).state ≠ block) :
    ReadChanges board offset (.reconfig block) (.reconfig (block.read offset).state) := by
  obtain rfl : offset = 0x0C := Decidable.byContradiction fun hother =>
    hne (block.state_read hother)
  have hstate : (block.read 0x0C).state =
      { block with busyRemaining := block.busyRemaining - 1 } := rfl
  rw [hstate] at hne ⊢
  refine .poll (Decidable.byContradiction fun hidle => hne ?_)
  have hzero : block.busyRemaining = 0 := by simpa [Reconfig.isBusy] using hidle
  rw [hzero, Nat.zero_sub, ← hzero]

theorem readChanges_timers {bank : Timers} (h : bank.Sound)
    (hne : (bank.read board.clock offset).state ≠ bank) :
    ReadChanges board offset (.timers bank) (.timers (bank.read board.clock offset).state) := by
  cases hindex : Timers.indexOf? offset with
  | none => exact absurd (Timers.state_read_of_none hindex bank board.clock) hne
  | some index =>
      obtain ⟨timer, htimer⟩ := Timers.exists_timer h.size hindex
      rw [Timers.state_read hindex htimer] at hne ⊢
      have hcaught : timer.catchUp bank.tick board.clock.toNat ≠ timer := fun hsame =>
        hne ((Timers.set_eq_self_iff htimer _).mpr hsame)
      obtain ⟨hrunning, hpassed⟩ := (timer.catchUp_ne_self_iff h.tick _).mp hcaught
      exact .timer hindex htimer hrunning hpassed

theorem readChanges_mailbox {box : Mailbox} (hne : (box.read offset).state ≠ box) :
    ReadChanges board offset (.mailbox box) (.mailbox (box.read offset).state) := by
  obtain rfl : offset = 0x38 := Decidable.byContradiction fun hother =>
    hne (box.state_read hother)
  rw [box.state_fetch] at hne ⊢
  refine .take fun hempty => hne ?_
  rw [hempty, List.tail_nil, ← hempty]

theorem readChanges_of_ne (h : device.Sound) (hne : (device.read board offset).state.1 ≠ device) :
    ReadChanges board offset device (device.read board offset).state.1 := by
  cases device with
  | cryptoBlock block => exact readChanges_cryptoBlock fun hsame => hne (congrArg _ hsame)
  | serialMemory memory => exact readChanges_serialMemory fun hsame => hne (congrArg _ hsame)
  | reconfig block => exact readChanges_reconfig fun hsame => hne (congrArg _ hsame)
  | timers bank => exact readChanges_timers h fun hsame => hne (congrArg _ hsame)
  | mailbox box => exact readChanges_mailbox fun hsame => hne (congrArg _ hsame)
  | wordBank bank => exact absurd (congrArg wordBank (bank.state_read offset)) hne
  | flashController controller =>
      exact absurd (congrArg flashController (controller.state_read offset)) hne
  | pageMap map => exact absurd (congrArg pageMap (map.state_read offset)) hne
  | pins | flashWindow | latch => exact absurd rfl hne

/-- **Reads**: a read leaves the board alone, and it changes its device in the five cases and
in no other, and then as they say. -/
theorem readChanges_iff (h : device.Sound) :
    ReadChanges board offset device after ↔
      (device.read board offset).state = (after, board) ∧ after ≠ device := by
  have hboard := device.board_read board offset
  constructor
  · intro hchanges
    obtain ⟨hstate, hne⟩ := hchanges.state_read h
    exact ⟨Prod.ext hstate hboard, hne⟩
  · rintro ⟨hstate, hne⟩
    have hafter : (device.read board offset).state.1 = after := congrArg Prod.fst hstate
    subst hafter
    exact readChanges_of_ne h hne

/-! ## writes that change nothing -/

/-- The offsets of the registers that can only be read and ignore writes. -/
def readOnlyOffsets : Device → List UInt32
  -- the input word
  | .pins => [0x04]
  -- busy, the reason of the last reconfiguration, the current image
  | .reconfig _ => [0x0C, 0x10, 0x1C]
  -- the status and the levels of both queues
  | .serialMemory _ => [0x14, 0x18, 0x1C]
  -- the data that a command has read
  | .flashController _ => [0x30, 0x34]
  -- the queue of the host's bytes
  | .mailbox _ => [0x38]
  | _ => []

@[simp] theorem readOnlyOffsets_poweredUp (device : Device) :
    device.poweredUp.readOnlyOffsets = device.readOnlyOffsets := by
  cases device <;> rfl

/-- **Ignored writes**: a write to a register that can only be read is accepted and changes
nothing. -/
theorem write_of_readOnly (h : offset ∈ device.readOnlyOffsets) (board : Board) (value : UInt32) :
    device.write board offset value = .accept (device, board) := by
  cases device with
  | pins | mailbox =>
      obtain rfl := List.mem_singleton.mp h
      rfl
  | flashController =>
      simp only [readOnlyOffsets, List.mem_cons, List.not_mem_nil, or_false] at h
      obtain rfl | rfl := h <;> rfl
  | reconfig | serialMemory =>
      simp only [readOnlyOffsets, List.mem_cons, List.not_mem_nil, or_false] at h
      obtain rfl | rfl | rfl := h <;> rfl
  | _ => cases h

end Device

end BoardSim
