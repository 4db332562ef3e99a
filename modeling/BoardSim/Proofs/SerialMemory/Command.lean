import BoardSim.Device.SerialMemory
import BoardSim.Proofs.Device.Run

/-!
# BoardSim.Proofs.SerialMemory.Command

The serial memory as an interpreter of commands.

A command word counts by two flags and a byte (`Command.ofWord`), whatever its
other bits are.  A memory with an empty command queue carries a written word out
at once, so a sequence of writes to the transfer register comes down to
`obeyAll`, provided that no command of it breaks off (`perform_words`).

`Sound` says what holds in every state that the memory can be in; `sound_operate`
is the step and `sound_operateAll` the run.
-/

namespace BoardSim.SerialMemory

open RegisterDevice (perform results)

instance : RegisterDevice SerialMemory where
  readAt := read
  writeAt := write
  powerUp := fun _ => fresh

/-! ## commands -/

/-- What counts of a command word. -/
structure Command where
  start : Bool
  stop : Bool
  byte : UInt8
deriving DecidableEq

/-- The flags and the byte of a word. -/
def Command.ofWord (word : UInt32) : Command :=
  ⟨hasBit word startBit, hasBit word stopBit, word.toUInt8⟩

/-- The memory after the byte of a command, which is counted and may end the transfer. -/
def conclude (memory : SerialMemory) (stop : Bool) : SerialMemory :=
  { memory with
    stage := if stop then .idle else memory.stage
    commandsProcessed := memory.commandsProcessed + 1 }

/-- Carry out a command. -/
def obey (memory : SerialMemory) (command : Command) : Except (Failure Violation) SerialMemory :=
  (memory.transfer command.start command.byte).map (conclude · command.stop)

/-- Carry out commands, first to last. -/
def obeyAll (memory : SerialMemory) (commands : List Command) :
    Except (Failure Violation) SerialMemory :=
  commands.foldlM obey memory

theorem run_eq_obey (memory : SerialMemory) (word : UInt32) :
    memory.run word = memory.obey (.ofWord word) := by
  rw [run, obey, Command.ofWord]
  cases memory.transfer (hasBit word startBit) word.toUInt8 <;> rfl

theorem obeyAll_cons {memory next : SerialMemory} {command : Command}
    (h : memory.obey command = .ok next) (rest : List Command) :
    memory.obeyAll (command :: rest) = next.obeyAll rest := by
  rw [obeyAll, List.foldlM_cons, h]
  rfl

theorem obeyAll_cons_eq_ok {memory after : SerialMemory} {command : Command}
    {rest : List Command} :
    memory.obeyAll (command :: rest) = .ok after ↔
      ∃ next, memory.obey command = .ok next ∧ next.obeyAll rest = .ok after := by
  rw [obeyAll, List.foldlM_cons]
  cases memory.obey command <;> simp [obeyAll, bind, Except.bind]

theorem obeyAll_append {memory next : SerialMemory} {commands : List Command}
    (h : memory.obeyAll commands = .ok next) (rest : List Command) :
    memory.obeyAll (commands ++ rest) = next.obeyAll rest := by
  rw [obeyAll] at h
  rw [obeyAll, List.foldlM_append, h]
  rfl

/-! ## what holds in every state -/

/-- The store is complete, the address lies in it, and no command waits. -/
structure Sound (memory : SerialMemory) : Prop where
  size : memory.store.length = storeSize
  address : memory.address < storeSize
  commands : memory.commands = []

theorem sound_fresh : Sound fresh where
  size := List.length_replicate
  address := by decide
  commands := rfl

theorem Sound.conclude {memory : SerialMemory} (h : Sound memory) (stop : Bool) :
    Sound (memory.conclude stop) :=
  ⟨h.size, h.address, h.commands⟩

/-- The two bytes of an address make an address that lies in the store. -/
theorem or_lt_storeSize {address : Nat} (h : address < storeSize) (byte : UInt8) :
    address ||| byte.toNat < storeSize :=
  Nat.or_lt_two_pow (n := 10) h (Nat.lt_trans byte.toNat_lt (by decide))

/-- The effect of a byte leaves the memory sound. -/
theorem Sound.transfer {memory after : SerialMemory} (h : Sound memory) {start : Bool}
    {byte : UInt8} (hok : memory.transfer start byte = .ok after) : Sound after := by
  have hnext : (memory.address + 1) % storeSize < storeSize := Nat.mod_lt _ (by decide)
  have hturned (stage : Stage) : Sound { memory with stage } := ⟨h.size, h.address, h.commands⟩
  simp only [SerialMemory.transfer] at hok
  generalize (if start then opened? byte.toNat else none) = opening at hok
  cases hstage : memory.stage with
  | idle =>
      rw [hstage] at hok
      cases opening <;> cases hok
      · exact h
      · exact hturned _
  | addressHigh =>
      rw [hstage] at hok
      cases hok
      exact ⟨h.size, by simp only [storeSize]; omega, h.commands⟩
  | addressLow =>
      rw [hstage] at hok
      cases hok
      exact ⟨h.size, or_lt_storeSize h.address byte, h.commands⟩
  | writeData =>
      rw [hstage] at hok
      cases opening with
      | none =>
          dsimp only at hok
          split at hok
          next =>
            cases hok
            exact ⟨(List.length_set ..).trans h.size, hnext, h.commands⟩
          next => cases hok
      | some stage =>
          cases hok
          exact hturned stage
  | readData =>
      rw [hstage] at hok
      cases opening with
      | none =>
          dsimp only at hok
          split at hok
          next =>
            cases hok
            exact ⟨h.size, hnext, h.commands⟩
          next => cases hok
      | some stage =>
          cases hok
          exact hturned stage

/-- A command leaves the memory sound. -/
theorem Sound.obey {memory after : SerialMemory} (h : Sound memory) {command : Command}
    (hok : memory.obey command = .ok after) : Sound after := by
  rw [SerialMemory.obey] at hok
  cases htransfer : memory.transfer command.start command.byte with
  | error failure =>
      rw [htransfer] at hok
      cases hok
  | ok moved =>
      rw [htransfer] at hok
      cases hok
      exact (h.transfer htransfer).conclude command.stop

/-- Commands leave the memory sound. -/
theorem Sound.obeyAll {memory after : SerialMemory} (h : Sound memory) {commands : List Command}
    (hok : memory.obeyAll commands = .ok after) : Sound after := by
  induction commands generalizing memory with
  | nil =>
      cases hok
      exact h
  | cons command rest ih =>
      obtain ⟨next, hnext, hrest⟩ := obeyAll_cons_eq_ok.mp hok
      exact ih (h.obey hnext) hrest

/-- A command word leaves the memory sound, also if it breaks off. -/
theorem Sound.enqueue {memory : SerialMemory} (h : Sound memory) (word : UInt32) :
    Sound (memory.enqueue word).state := by
  rw [SerialMemory.enqueue, h.commands, List.nil_append, runAll, run_eq_obey]
  cases hok : memory.obey (.ofWord word) with
  | error failure => exact ⟨h.size, h.address, rfl⟩
  | ok after =>
      have hafter := h.obey hok
      exact ⟨hafter.size, hafter.address, rfl⟩

theorem Sound.read {memory : SerialMemory} (h : Sound memory) (offset : UInt32) :
    Sound (memory.read offset).state := by
  rw [SerialMemory.read]
  split
  next => exact h
  next => split <;> exact ⟨h.size, h.address, h.commands⟩
  all_goals exact h

theorem Sound.write {memory : SerialMemory} (h : Sound memory) (offset value : UInt32) :
    Sound (memory.write offset value).state := by
  rw [SerialMemory.write]
  split
  next => exact h.enqueue value
  next => exact h
  next => exact ⟨h.size, h.address, h.commands⟩
  all_goals exact h

theorem Sound.perform {memory : SerialMemory} (h : Sound memory) (access : DeviceAccess) :
    Sound (RegisterDevice.perform memory access).state := by
  cases access with
  | read offset => exact h.read offset
  | write offset value => exact h.write offset value
  | reset => exact sound_fresh

theorem Sound.preload {memory : SerialMemory} (h : Sound memory) (address : Nat)
    (bytes : List UInt8) : Sound (memory.preload address bytes) := by
  induction bytes generalizing memory address with
  | nil => exact h
  | cons byte rest ih =>
      have hset : Sound { memory with store := memory.store.set (address % storeSize) byte } :=
        ⟨(List.length_set ..).trans h.size, h.address, h.commands⟩
      exact ih hset _

/-! ## histories -/

/-- What can happen to the memory: the firmware makes an access, or the content of a
file is loaded. -/
inductive Operation where
  | access (access : DeviceAccess)
  | load (address : UInt16) (bytes : List UInt8)

/-- The memory after an operation. -/
def operate (memory : SerialMemory) : Operation → SerialMemory
  | .access access => (perform memory access).state
  | .load address bytes => memory.preload address.toNat bytes

/-- The memory after operations, first to last. -/
def operateAll (memory : SerialMemory) (operations : List Operation) : SerialMemory :=
  operations.foldl operate memory

/-- **Step**: an operation leaves the memory sound. -/
theorem Sound.operate {memory : SerialMemory} (h : Sound memory) (operation : Operation) :
    Sound (memory.operate operation) := by
  cases operation with
  | access access => exact h.perform access
  | load address bytes => exact h.preload address.toNat bytes

/-- **Run**: the memory is sound after any history. -/
theorem Sound.operateAll {memory : SerialMemory} (h : Sound memory)
    (operations : List Operation) : Sound (memory.operateAll operations) := by
  induction operations generalizing memory with
  | nil => exact h
  | cons operation rest ih => exact ih (h.operate operation)

/-! ## command words as register writes -/

/-- The write of a command word. -/
def send (word : UInt32) : DeviceAccess := .write 0x00 word

/-- The read of a byte that waits. -/
def fetch : DeviceAccess := .read 0x04

/-- A word that is written is carried out at once. -/
theorem Sound.write_command {memory after : SerialMemory} (h : Sound memory) {word : UInt32}
    (hok : memory.obey (.ofWord word) = .ok after) : memory.write 0x00 word = .accept after := by
  change memory.enqueue word = _
  rw [SerialMemory.enqueue, h.commands, List.nil_append, runAll, run_eq_obey, hok]
  have hempty : { after with commands := [] } = after := by rw [← (h.obey hok).commands]
  exact congrArg Reply.accept hempty

theorem perform_send {memory after : SerialMemory} (h : Sound memory) {word : UInt32}
    (hok : memory.obey (.ofWord word) = .ok after) :
    perform memory (send word) = ⟨.ok none, after⟩ := by
  simp [send, RegisterDevice.perform, RegisterDevice.writeAt, h.write_command hok, Except.map]

/-- Words that are written are carried out in order. -/
theorem perform_words {memory after : SerialMemory} (h : Sound memory) {words : List UInt32}
    (hok : memory.obeyAll (words.map .ofWord) = .ok after) :
    results memory (words.map send) = words.map (fun _ => .ok none) ∧
      RegisterDevice.run memory (words.map send) = after := by
  induction words generalizing memory with
  | nil =>
      cases hok
      exact ⟨rfl, rfl⟩
  | cons word rest ih =>
      obtain ⟨next, hnext, hrest⟩ := obeyAll_cons_eq_ok.mp hok
      obtain ⟨hresults, hrun⟩ := ih (h.obey hnext) hrest
      rw [List.map_cons, List.map_cons, results, RegisterDevice.run_cons, perform_send h hnext,
        hresults]
      exact ⟨rfl, hrun⟩

end BoardSim.SerialMemory
