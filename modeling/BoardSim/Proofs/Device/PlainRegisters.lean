import BoardSim.Proofs.Device.PowerUp

/-!
# BoardSim.Proofs.Device.PlainRegisters

The registers that are plain words.

Among the registers of a device there are some that do nothing: they hold the word that was
written to them.  They stand in the same banks as registers that start commands, feed
queues, count down or show what a command found.  For each decoder `plain?` tells the word
at an offset if the register there is plain, and `PlainWords` what this amounts to: the word
is what a read gives, no read changes it, a write is accepted and replaces it, and a write at
any other multiple of four leaves it alone, whatever else it sets going.
-/

namespace BoardSim

/-- In a state, the words that `plain?` tells are those of plain registers.  A bank answers
to all four offsets of a word, so offsets are told apart at multiples of four only. -/
structure PlainWords {σ : Type} (read : σ → (offset : UInt32) → Reply σ UInt32)
    (write : σ → (offset value : UInt32) → Reply σ Unit) (plain? : σ → UInt32 → Option UInt32)
    (state : σ) : Prop where
  result_read : ∀ {offset word}, plain? state offset = some word →
    (read state offset).result = .ok word
  read_keeps : ∀ offset other, plain? (read state offset).state other = plain? state other
  result_write : ∀ {offset word} value, plain? state offset = some word →
    (write state offset value).result = .ok ()
  write_replaces : ∀ {offset word} value, plain? state offset = some word →
    plain? (write state offset value).state offset = some value
  write_keeps : ∀ {offset other : UInt32} value, 4 ∣ offset.toNat → 4 ∣ other.toNat →
    other ≠ offset → plain? (write state offset value).state other = plain? state other

namespace PlainWords

variable {σ τ : Type} {read : σ → (offset : UInt32) → Reply σ UInt32}
  {write : σ → (offset value : UInt32) → Reply σ Unit} {plain? : σ → UInt32 → Option UInt32}

/-- There need not be any, if no access makes one. -/
theorem none {state : σ} (h : plain? state = fun _ => .none)
    (hread : ∀ offset, plain? (read state offset).state = fun _ => .none)
    (hwrite : ∀ offset value, plain? (write state offset value).state = fun _ => .none) :
    PlainWords read write plain? state where
  result_read hword := by simp [h] at hword
  read_keeps offset other := by rw [hread, h]
  result_write value hword := by simp [h] at hword
  write_replaces value hword := by simp [h] at hword
  write_keeps value _ _ _ := by rw [hwrite, h]

/-- Those of a part are those of the whole if accesses to the whole are handed on to the
part. -/
theorem wrap {part : σ} (h : PlainWords read write plain? part)
    {readWhole : τ → (offset : UInt32) → Reply τ UInt32}
    {writeWhole : τ → (offset value : UInt32) → Reply τ Unit}
    {plainWhole? : τ → UInt32 → Option UInt32} (whole : σ → τ)
    (hread : ∀ offset, readWhole (whole part) offset = (read part offset).mapState whole)
    (hwrite : ∀ offset value,
      writeWhole (whole part) offset value = (write part offset value).mapState whole)
    (hplain : ∀ part, plainWhole? (whole part) = plain? part) :
    PlainWords readWhole writeWhole plainWhole? (whole part) where
  result_read hword := by
    rw [hplain] at hword
    rw [hread, Reply.result_mapState, h.result_read hword]
  read_keeps offset other := by
    rw [hread, Reply.state_mapState, hplain, hplain, h.read_keeps]
  result_write value hword := by
    rw [hplain] at hword
    rw [hwrite, Reply.result_mapState, h.result_write value hword]
  write_replaces value hword := by
    rw [hplain] at hword
    rw [hwrite, Reply.state_mapState, hplain, h.write_replaces value hword]
  write_keeps value halign hother hne := by
    rw [hwrite, Reply.state_mapState, hplain, hplain, h.write_keeps value halign hother hne]

end PlainWords

/-- Multiples of four lie in different words if they are different. -/
theorem word_ne_of_ne {offset other : UInt32} (halign : 4 ∣ offset.toNat) (hother : 4 ∣ other.toNat)
    (hne : other ≠ offset) : other.toNat / 4 ≠ offset.toNat / 4 := by
  have hnat : other.toNat ≠ offset.toNat := fun heq => hne (UInt32.toNat_inj.mp heq)
  omega

/-- A chain of alternatives ends at the first one or further on. -/
theorem eq_or_eq_of_ite_eq_some {α : Type} {p : Prop} [Decidable p] {a b : α} {rest : Option α}
    (h : (if p then some a else rest) = some b) : p ∧ a = b ∨ rest = some b := by
  by_cases hp : p
  · rw [if_pos hp] at h
    exact .inl ⟨hp, Option.some.inj h⟩
  · rw [if_neg hp] at h
    exact .inr h

/-! ## the plain blocks -/

namespace WordBank

/-- The word at an offset of the block. -/
def plain? (bank : WordBank) (offset : UInt32) : Option UInt32 :=
  if offset < bank.span then some (bank.get offset) else none

variable {bank : WordBank} {offset word : UInt32}

theorem plain?_eq_some_iff :
    bank.plain? offset = some word ↔ offset < bank.span ∧ bank.get offset = word := by
  simp [plain?]

@[simp] theorem span_set (bank : WordBank) (offset value : UInt32) :
    (bank.set offset value).span = bank.span := rfl

theorem state_read (bank : WordBank) (offset : UInt32) : (bank.read offset).state = bank := by
  rw [read]
  split <;> rfl

theorem plain?_set (h : bank.plain? offset = some word) (value : UInt32) :
    (bank.set offset value).plain? offset = some value := by
  obtain ⟨hspan, rfl⟩ := plain?_eq_some_iff.mp h
  simp [plain?, hspan]

theorem plain?_set_of_ne (bank : WordBank) (value : UInt32) {offset other : UInt32}
    (hne : other ≠ offset) : (bank.set offset value).plain? other = bank.plain? other := by
  simp [plain?, hne]

theorem plainWords (bank : WordBank) : PlainWords read write plain? bank where
  result_read h := by
    obtain ⟨hspan, rfl⟩ := plain?_eq_some_iff.mp h
    rw [read, if_pos hspan, Reply.result_answer]
  read_keeps offset other := by rw [state_read]
  result_write value h := by
    obtain ⟨hspan, rfl⟩ := plain?_eq_some_iff.mp h
    rw [write, if_pos hspan, Reply.result_accept]
  write_replaces value h := by
    obtain ⟨hspan, -⟩ := plain?_eq_some_iff.mp h
    rw [write, if_pos hspan, Reply.state_accept, plain?_set h]
  write_keeps value _ _ hne := by
    rw [write]
    split
    next => exact plain?_set_of_ne _ value hne
    next => rfl

end WordBank

namespace PageMap

/-- The word at an offset of the map. -/
def plain? (map : PageMap) (offset : UInt32) : Option UInt32 :=
  if offset.toNat / 4 < map.wordCount then some (map.get (offset.toNat / 4)) else none

variable {map : PageMap} {offset word : UInt32}

theorem plain?_eq_some_iff :
    map.plain? offset = some word ↔
      offset.toNat / 4 < map.wordCount ∧ map.get (offset.toNat / 4) = word := by
  simp [plain?]

@[simp] theorem wordCount_set (map : PageMap) (index : Nat) (value : UInt32) :
    (map.set index value).wordCount = map.wordCount := rfl

theorem state_read (map : PageMap) (offset : UInt32) : (map.read offset).state = map := by
  rw [read]
  split <;> rfl

theorem plainWords (map : PageMap) : PlainWords read write plain? map where
  result_read h := by
    obtain ⟨hcount, rfl⟩ := plain?_eq_some_iff.mp h
    rw [read, if_pos hcount, Reply.result_answer]
  read_keeps offset other := by rw [state_read]
  result_write value h := by
    obtain ⟨hcount, rfl⟩ := plain?_eq_some_iff.mp h
    rw [write, if_pos hcount, Reply.result_accept]
  write_replaces value h := by
    obtain ⟨hcount, rfl⟩ := plain?_eq_some_iff.mp h
    rw [write, if_pos hcount, Reply.state_accept]
    simp [plain?, hcount]
  write_keeps value halign hother hne := by
    have hword := word_ne_of_ne halign hother hne
    rw [write]
    split
    next => simp [plain?, hword]
    next => rfl

end PageMap

/-! ## single words -/

namespace PinRegisters

/-- The output word, at its offset. -/
def plain? (pins : Pins) (offset : UInt32) : Option UInt32 :=
  if offset = 0x00 then some pins.outputs else none

variable {pins : Pins} {offset word : UInt32}

theorem plain?_eq_some_iff :
    plain? pins offset = some word ↔ offset = 0x00 ∧ pins.outputs = word := by
  simp [plain?]

theorem outputs_write (pins : Pins) (value : UInt32) (h : offset ≠ 0x00) :
    (write pins offset value).state.outputs = pins.outputs := by
  by_cases hinputs : offset = 0x04
  · subst hinputs
    rfl
  · simp [write, Register.ofOffset?, h, hinputs]

theorem plainWords (pins : Pins) : PlainWords read write plain? pins where
  result_read h := by
    obtain ⟨rfl, rfl⟩ := plain?_eq_some_iff.mp h
    rfl
  read_keeps offset other := by
    rw [read]
    split <;> rfl
  result_write value h := by
    obtain ⟨rfl, rfl⟩ := plain?_eq_some_iff.mp h
    rfl
  write_replaces value h := by
    obtain ⟨rfl, rfl⟩ := plain?_eq_some_iff.mp h
    rfl
  write_keeps {offset other} value _ _ hne := by
    by_cases hoffset : offset = 0x00
    · subst hoffset
      simp [plain?, hne]
    · rw [plain?, plain?, outputs_write pins value hoffset]

end PinRegisters

namespace Reconfig

/-- The watchdog word, at its offset. -/
def plain? (block : Reconfig) (offset : UInt32) : Option UInt32 :=
  if offset = 0x04 then some block.watchdog else none

variable {block : Reconfig} {offset word : UInt32}

theorem plain?_eq_some_iff :
    block.plain? offset = some word ↔ offset = 0x04 ∧ block.watchdog = word := by
  simp [plain?]

theorem watchdog_read (block : Reconfig) (offset : UInt32) :
    (block.read offset).state.watchdog = block.watchdog := by
  rw [read]
  split <;> rfl

theorem watchdog_controlEffect (value : UInt32) (block : Reconfig) :
    (controlEffect value block).watchdog = block.watchdog := by
  simp only [controlEffect]
  split <;> split <;> rfl

/-- A command leaves the watchdog word as its effect does. -/
theorem watchdog_runCommand (block : Reconfig) (register : Command) {run : Reconfig → Reconfig}
    (hrun : ∀ block, (run block).watchdog = block.watchdog) :
    (block.runCommand register run).state.watchdog = block.watchdog := by
  rw [runCommand]
  split
  next => rfl
  next => exact hrun _

theorem watchdog_write (block : Reconfig) (value : UInt32) (h : offset ≠ 0x04) :
    (block.write offset value).state.watchdog = block.watchdog := by
  rw [write]
  split
  next => exact block.watchdog_runCommand _ (watchdog_controlEffect value)
  next hregister =>
    unfold Register.ofOffset? at hregister
    grind
  next =>
    rw [watchdog_runCommand]
    exact fun _ => rfl
  all_goals rfl

theorem plainWords (block : Reconfig) : PlainWords read write plain? block where
  result_read h := by
    obtain ⟨rfl, rfl⟩ := plain?_eq_some_iff.mp h
    rfl
  read_keeps offset other := by rw [plain?, plain?, watchdog_read]
  result_write value h := by
    obtain ⟨rfl, rfl⟩ := plain?_eq_some_iff.mp h
    rfl
  write_replaces value h := by
    obtain ⟨rfl, rfl⟩ := plain?_eq_some_iff.mp h
    rfl
  write_keeps {offset other} value _ _ hne := by
    by_cases hoffset : offset = 0x04
    · subst hoffset
      simp [plain?, hne]
    · rw [plain?, plain?, block.watchdog_write value hoffset]

end Reconfig

/-! ## the settings of the serial memory -/

namespace SerialMemory

/-- The offset of a setting. -/
def Setting.offset : Setting → UInt32
  | .ctrl => 0x08
  | .iser => 0x0C
  | .isr => 0x10
  | .sclLow => 0x20
  | .sclHigh => 0x24
  | .sdaHold => 0x28

/-- The offset of a register. -/
def Register.offset : Register → UInt32
  | .transfer => 0x00
  | .receive => 0x04
  | .setting which => which.offset
  | .status => 0x14
  | .transferLevel => 0x18
  | .receiveLevel => 0x1C

theorem Register.ofOffset?_offset (which : Setting) :
    ofOffset? which.offset = some (.setting which) := by
  cases which <;> rfl

theorem Register.eq_offset {offset : UInt32} {register : Register}
    (h : ofOffset? offset = some register) : offset = register.offset := by
  unfold ofOffset? at h
  -- One step for each register; a split of the whole chain would simplify all that is left of it.
  iterate 11
    obtain ⟨hoffset, hregister⟩ | h := eq_or_eq_of_ite_eq_some h
    · cases hregister
      exact hoffset
  cases h

theorem Settings.get_set (settings : Settings) (value : UInt32) (which : Setting) :
    (settings.set value which).get which = value := by
  cases which <;> rfl

theorem Settings.get_set_of_ne (settings : Settings) (value : UInt32) {which other : Setting}
    (hne : other ≠ which) : (settings.set value which).get other = settings.get other := by
  cases which <;> cases other <;> first | rfl | exact absurd rfl hne

/-- The setting at an offset. -/
def plain? (memory : SerialMemory) (offset : UInt32) : Option UInt32 :=
  match Register.ofOffset? offset with
  | some (.setting which) => some (memory.settings.get which)
  | _ => none

variable {memory after : SerialMemory} {offset word : UInt32}

theorem plain?_eq_some_iff :
    memory.plain? offset = some word ↔
      ∃ which : Setting, offset = which.offset ∧ memory.settings.get which = word := by
  constructor
  · intro h
    unfold plain? at h
    split at h
    next which hregister =>
      exact ⟨which, Register.eq_offset hregister, Option.some.inj h⟩
    next => cases h
  · rintro ⟨which, rfl, rfl⟩
    rw [plain?, Register.ofOffset?_offset]

theorem settings_transfer {start : Bool} {byte : UInt8}
    (h : memory.transfer start byte = .ok after) : after.settings = memory.settings := by
  simp only [transfer] at h
  repeat' split at h
  all_goals first | (cases h; rfl) | cases h

theorem settings_run {word : UInt32} (h : memory.run word = .ok after) :
    after.settings = memory.settings := by
  rw [run] at h
  cases htransfer : memory.transfer (hasBit word startBit) word.toUInt8 with
  | error failure =>
      rw [htransfer] at h
      cases h
  | ok next =>
      rw [htransfer] at h
      cases h
      have hnext : next.settings = memory.settings := settings_transfer htransfer
      exact hnext

/-- Commands have no part in the settings, whether they end or break off. -/
theorem settings_runAll (memory : SerialMemory) (words : List UInt32) :
    (memory.runAll words).state.settings = memory.settings := by
  induction words generalizing memory with
  | nil => rfl
  | cons word rest ih =>
      rw [runAll]
      split
      next => rfl
      next after hrun => rw [ih, settings_run hrun]

theorem settings_read (memory : SerialMemory) (offset : UInt32) :
    (memory.read offset).state.settings = memory.settings := by
  rw [read]
  repeat' split
  all_goals rfl

theorem plainWords (memory : SerialMemory) : PlainWords read write plain? memory where
  result_read h := by
    obtain ⟨which, rfl, rfl⟩ := plain?_eq_some_iff.mp h
    rw [read, Register.ofOffset?_offset, Reply.result_answer]
  read_keeps offset other := by rw [plain?, plain?, settings_read]
  result_write value h := by
    obtain ⟨which, rfl, rfl⟩ := plain?_eq_some_iff.mp h
    rw [write, Register.ofOffset?_offset, Reply.result_accept]
  write_replaces value h := by
    obtain ⟨which, rfl, rfl⟩ := plain?_eq_some_iff.mp h
    rw [write, Register.ofOffset?_offset, Reply.state_accept]
    exact plain?_eq_some_iff.mpr ⟨which, rfl, Settings.get_set ..⟩
  write_keeps {offset other} value _ _ hne := by
    rw [write]
    split
    next => rw [plain?, plain?, enqueue, settings_runAll]
    next => rfl
    next which hregister =>
      obtain rfl : offset = which.offset := Register.eq_offset hregister
      unfold plain?
      split
      next rival hrival =>
        have hother : rival ≠ which := by
          rintro rfl
          exact hne (Register.eq_offset hrival)
        exact congrArg some (memory.settings.get_set_of_ne value hother)
      next => rfl
    all_goals rfl

end SerialMemory

/-! ## plain words beside ports -/

namespace Mailbox

/-- The word at an offset that is not a trigger and not a queue. -/
def plain? (box : Mailbox) (offset : UInt32) : Option UInt32 :=
  match Register.ofOffset offset with
  | .plain => box.registers.plain? offset
  | _ => none

variable {box : Mailbox} {offset word : UInt32}

theorem plain?_eq_some_iff :
    box.plain? offset = some word ↔
      Register.ofOffset offset = .plain ∧ box.registers.plain? offset = some word := by
  rw [plain?]
  split
  next hregister => simp [hregister]
  next hother =>
    have hregister : ¬ Register.ofOffset offset = .plain := hother
    simp [hregister]

theorem registers_read (box : Mailbox) (offset : UInt32) :
    (box.read offset).state.registers = box.registers := by
  have hplain : (box.readPlain offset).state.registers = box.registers := by
    rw [readPlain, WordBank.read]
    split <;> rfl
  rw [read]
  split
  next => rfl
  next => split <;> rfl
  next => exact hplain
  next => exact hplain

theorem registers_writeTrigger (box : Mailbox) (value : UInt32) :
    (box.writeTrigger value).registers =
      box.registers.set triggerOffset (value &&& ~~~flushMask) := by
  rw [writeTrigger]
  split <;> rfl

theorem plainWords (box : Mailbox) : PlainWords read write plain? box where
  result_read h := by
    obtain ⟨hregister, hword⟩ := plain?_eq_some_iff.mp h
    rw [read, hregister]
    exact box.registers.plainWords.result_read hword
  read_keeps offset other := by rw [plain?, plain?, registers_read]
  result_write value h := by
    obtain ⟨hregister, hword⟩ := plain?_eq_some_iff.mp h
    rw [write, hregister]
    exact box.registers.plainWords.result_write value hword
  write_replaces value h := by
    obtain ⟨hregister, hword⟩ := plain?_eq_some_iff.mp h
    rw [write, hregister]
    exact plain?_eq_some_iff.mpr ⟨hregister, box.registers.plainWords.write_replaces value hword⟩
  write_keeps {offset other} value halign hother hne := by
    rw [write]
    split
    next => rfl
    next => rfl
    next hregister =>
      rw [Reply.state_accept, plain?, plain?, registers_writeTrigger]
      split
      next hplain =>
        have htrigger : other ≠ triggerOffset := by
          rintro rfl
          cases hplain
        exact WordBank.plain?_set_of_ne _ _ htrigger
      next => rfl
    next =>
      have hkept := box.registers.plainWords.write_keeps value halign hother hne
      simp only [plain?]
      split
      next => exact hkept
      next => rfl

end Mailbox

namespace FlashController

/-- The word at an offset below the data that was read, where no command is started. -/
def plain? (controller : FlashController) (offset : UInt32) : Option UInt32 :=
  if offset = commandControl ∨ dataLow ≤ offset then none else controller.get? offset

variable {controller : FlashController} {offset word : UInt32}

theorem plain?_eq_some_iff :
    controller.plain? offset = some word ↔
      offset ≠ commandControl ∧ offset < dataLow ∧ controller.get? offset = some word := by
  simp [plain?, not_or, and_assoc]

/-- A register that is plain is none of those of the data that was read. -/
theorem get?_set_dataLow (controller : FlashController) (value : UInt32) (h : offset < dataLow) :
    (controller.set dataLow value).get? offset = controller.get? offset := by
  have hlt := UInt32.lt_iff_toNat_lt.mp h
  have hindex : offset.toNat / 4 < dataLow.toNat / 4 := by
    have hdata : dataLow.toNat = 48 := rfl
    omega
  rw [get?, set, List.getElem?_set_ne (Nat.ne_of_gt hindex), get?]

theorem registers_erase (controller : FlashController) (board : Board) (address : UInt32)
    (length : Nat) {count : FlashController → FlashController}
    (hcount : ∀ controller, (count controller).registers = controller.registers) :
    (controller.erase board address length count).state.1.registers = controller.registers := by
  have hlatch (chip : Flash.Chip) :
      (controller.withLatch false chip).registers = controller.registers := by
    cases chip <;> rfl
  rw [erase]
  split
  next => rfl
  next => rw [Reply.state_accept, hcount, hlatch]

/-- A command changes no register but the first of the data that was read. -/
theorem get?_execute (controller : FlashController) (board : Board) (h : offset < dataLow) :
    (controller.execute board).state.1.get? offset = controller.get? offset := by
  have hlatch (value : Bool) (chip : Flash.Chip) :
      (controller.withLatch value chip).get? offset = controller.get? offset := by
    cases chip <;> rfl
  rw [execute]
  split
  next =>
    simp only
    split
    next =>
      rw [get?, registers_erase, get?]
      exact fun _ => rfl
    next =>
      rw [get?, registers_erase, get?]
      exact fun _ => rfl
    next => exact hlatch true _
    next => exact hlatch false _
    next => exact controller.get?_set_dataLow _ h
    next => exact controller.get?_set_dataLow _ h
    next => rfl
  next => rfl

theorem plain?_execute (controller : FlashController) (board : Board) (offset : UInt32) :
    (controller.execute board).state.1.plain? offset = controller.plain? offset := by
  by_cases hdata : offset < dataLow
  · rw [plain?, plain?, get?_execute controller board hdata]
  · have hpast : dataLow ≤ offset := UInt32.not_lt.mp hdata
    rw [plain?, plain?, if_pos (.inr hpast), if_pos (.inr hpast)]

theorem plain?_set_of_ne (controller : FlashController) (value : UInt32) {other : UInt32}
    (hword : other.toNat / 4 ≠ offset.toNat / 4) :
    (controller.set offset value).plain? other = controller.plain? other := by
  rw [plain?, plain?, get?, set, List.getElem?_set_ne hword.symm, get?]

theorem write_of_plain (h : controller.plain? offset = some word) (board : Board)
    (value : UInt32) :
    controller.write board offset value = .accept (controller.set offset value, board) := by
  obtain ⟨hcontrol, hdata, hword⟩ := plain?_eq_some_iff.mp h
  have hlow : offset ≠ dataLow := UInt32.ne_of_lt hdata
  have hhigh : offset < dataHigh := UInt32.lt_trans hdata (by decide)
  have hreadOnly : ¬ (offset = dataLow ∨ offset = dataHigh) :=
    not_or.mpr ⟨hlow, UInt32.ne_of_lt hhigh⟩
  have hindex : offset.toNat / 4 < controller.registers.length :=
    (List.getElem?_eq_some_iff.mp hword).1
  rw [write, if_neg hcontrol, if_neg hreadOnly, if_pos (UInt32.le_of_lt hhigh), if_pos hindex]

theorem plainWords (state : FlashController × Board) :
    PlainWords (fun state offset => (read state.1 offset).mapState fun after => (after, state.2))
      (fun state => write state.1 state.2) (fun state => plain? state.1) state where
  result_read {offset word} h := by
    obtain ⟨hcontrol, hdata, hword⟩ := plain?_eq_some_iff.mp h
    have hlast : offset ≤ dataHigh := UInt32.le_trans (UInt32.le_of_lt hdata) (by decide)
    rw [Reply.result_mapState, read, if_neg hcontrol, if_pos hlast, hword]
    rfl
  read_keeps offset other := by
    rw [Reply.state_mapState, read]
    repeat' split
    all_goals rfl
  result_write value h := by rw [write_of_plain h, Reply.result_accept]
  write_replaces {offset word} value h := by
    obtain ⟨hcontrol, hdata, hword⟩ := plain?_eq_some_iff.mp h
    have hindex : offset.toNat / 4 < state.1.registers.length :=
      (List.getElem?_eq_some_iff.mp hword).1
    have hset : (state.1.set offset value).get? offset = some value :=
      List.getElem?_set_self hindex
    rw [write_of_plain h, Reply.state_accept]
    exact plain?_eq_some_iff.mpr ⟨hcontrol, hdata, hset⟩
  write_keeps {offset other} value halign hother hne := by
    have hword := word_ne_of_ne halign hother hne
    rw [write]
    split
    next =>
      split
      next => exact plain?_execute state.1 state.2 other
      next => rfl
    next =>
      split
      next => rfl
      next =>
        split
        next =>
          split
          next => exact plain?_set_of_ne state.1 value hword
          next => rfl
        next => rfl

end FlashController

/-! ## all devices -/

namespace Device

/-- The word at an offset of a device if the register there is plain. -/
def plain? (device : Device) (board : Board) (offset : UInt32) : Option UInt32 :=
  match device with
  | .wordBank bank => bank.plain? offset
  | .pins => PinRegisters.plain? board.pins offset
  | .reconfig block => block.plain? offset
  | .serialMemory memory => memory.plain? offset
  | .mailbox box => box.plain? offset
  | .flashController controller => controller.plain? offset
  | .pageMap map => map.plain? offset
  | .timers _ | .cryptoBlock _ | .flashWindow | .latch _ => none

/-- No plain word is on the board but the outputs. -/
theorem plain?_congr {device : Device} {board other : Board}
    (h : device = .pins → other.pins.outputs = board.pins.outputs) :
    device.plain? other = device.plain? board := by
  cases device with
  | pins =>
      funext offset
      simp only [plain?, PinRegisters.plain?, h rfl]
  | _ => rfl

/-- **Plain registers**: in every device they are plain words. -/
theorem plainWords (device : Device) (board : Board) :
    PlainWords (fun state => read state.1 state.2) (fun state => write state.1 state.2)
      (fun state => plain? state.1 state.2) (device, board) := by
  cases device with
  | wordBank bank =>
      refine bank.plainWords.wrap (fun bank => (wordBank bank, board)) ?_ ?_ ?_
      all_goals intros; rfl
  | pins =>
      refine (PinRegisters.plainWords board.pins).wrap
        (fun words => (pins, { board with pins := words })) ?_ ?_ ?_
      all_goals intros; rfl
  | reconfig block =>
      refine block.plainWords.wrap (fun block => (reconfig block, board)) ?_ ?_ ?_
      all_goals intros; rfl
  | serialMemory memory =>
      refine memory.plainWords.wrap (fun memory => (serialMemory memory, board)) ?_ ?_ ?_
      all_goals intros; rfl
  | mailbox box =>
      refine box.plainWords.wrap (fun box => (mailbox box, board)) ?_ ?_ ?_
      all_goals intros; rfl
  | flashController controller =>
      refine (FlashController.plainWords (controller, board)).wrap
        (fun state => (flashController state.1, state.2)) ?_ ?_ ?_
      all_goals intros; rfl
  | pageMap map =>
      refine map.plainWords.wrap (fun map => (pageMap map, board)) ?_ ?_ ?_
      all_goals intros; rfl
  | timers | cryptoBlock | flashWindow | latch => exact .none rfl (fun _ => rfl) fun _ _ => rfl

end Device

end BoardSim
