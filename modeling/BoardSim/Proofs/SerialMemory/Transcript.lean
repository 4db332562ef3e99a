import BoardSim.Proofs.Device.History
import BoardSim.Proofs.Device.PlainRegisters
import BoardSim.Proofs.SerialMemory.Command

/-!
# BoardSim.Proofs.SerialMemory.Transcript

What the master of the serial memory shows, told from a transcript: the operations since the
last reset, each with the memory that it met.

1. every command word is accepted and counted, whatever it says, and none is left waiting;
2. the address lies in the store, and has no low byte while that is awaited;
3. the bytes that were fetched, with those that wait, are the bytes that the commands of read
   transfers found at the address of the moment (`found?`), in this order;
4. the bits of a command word above its flags have no part in anything.

`Sound.transfer_ok` says once what the byte of a command does, and `Accounts` is what every
operation keeps.
-/

namespace BoardSim.SerialMemory

open RegisterDevice (perform)
open History (since since_concat filterMap_concat)

/-! ## transcripts -/

/-- An operation and the memory that it met. -/
structure Note where
  memory : SerialMemory
  operation : Operation

/-- The operations of a sequence, each with the memory that it met. -/
def transcript (memory : SerialMemory) : List Operation → List Note
  | [] => []
  | operation :: rest => ⟨memory, operation⟩ :: transcript (memory.operate operation) rest

theorem operateAll_concat (memory : SerialMemory) (operations : List Operation)
    (operation : Operation) :
    memory.operateAll (operations ++ [operation]) =
      (memory.operateAll operations).operate operation :=
  List.foldl_append

theorem transcript_concat (memory : SerialMemory) (operations : List Operation)
    (operation : Operation) :
    memory.transcript (operations ++ [operation]) =
      memory.transcript operations ++ [⟨memory.operateAll operations, operation⟩] := by
  induction operations generalizing memory with
  | nil => rfl
  | cons first rest ih =>
      rw [List.cons_append, transcript, ih]
      rfl

/-- What the byte of a command opens if START comes with it. -/
def Command.opening? (command : Command) : Option Stage :=
  if command.start then opened? command.byte.toNat else none

/-- Does the command ask for a byte: is it one in a read transfer that opens no other? -/
def asks (memory : SerialMemory) (command : Command) : Bool :=
  memory.stage = .readData && command.opening?.isNone

namespace Note

def isReset (note : Note) : Bool :=
  match note.operation with
  | .access .reset => true
  | _ => false

/-- Is a command word written? -/
def isSend (note : Note) : Bool :=
  match note.operation with
  | .access (.write offset _) => offset = 0x00
  | _ => false

/-- The byte that a command finds in the store, if it asks for one. -/
def found? (note : Note) : Option UInt8 :=
  match note.operation with
  | .access (.write offset word) =>
      if offset = 0x00 ∧ note.memory.asks (.ofWord word) then
        note.memory.store[note.memory.address]?
      else none
  | _ => none

/-- The word that a read of the receive register returns. -/
def returned? (note : Note) : Option UInt32 :=
  match note.operation with
  | .access (.read offset) =>
      if offset = 0x04 then (note.memory.read offset).result.toOption else none
  | _ => none

end Note

/-! ## command words -/

/-- No START leads to the low part of an address. -/
theorem Command.opening?_ne_addressLow (command : Command) :
    command.opening? ≠ some .addressLow := by
  rw [opening?]
  split
  next =>
    rw [opened?]
    split
    next => simp
    next => split <;> simp
  next => simp

/-- The byte of a command is always carried out.  It finds a byte if it asks for one, and the
address has no low byte when that is awaited. -/
theorem Sound.transfer_ok {memory : SerialMemory} (h : Sound memory) (command : Command) :
    ∃ moved, memory.transfer command.start command.byte = .ok moved ∧
      moved.commandsProcessed = memory.commandsProcessed ∧
      moved.received = memory.received ++
        (if memory.asks command then memory.store[memory.address]? else none).toList ∧
      (moved.stage = .addressLow → moved.address % 256 = 0) := by
  have hcell : memory.address < memory.store.length := h.size ▸ h.address
  have hopening : (if command.start then opened? command.byte.toNat else none) =
      command.opening? := rfl
  have hturned {stage : Stage} (hopens : command.opening? = some stage)
      (hlow : stage = .addressLow) : memory.address % 256 = 0 :=
    absurd (hopens.trans (congrArg some hlow)) command.opening?_ne_addressLow
  have hquiet (hcurrent : memory.stage ≠ .readData) : memory.asks command = false := by
    simp [asks, hcurrent]
  simp only [SerialMemory.transfer, hopening]
  cases hcurrent : memory.stage with
  | idle =>
      rw [hquiet (by simp [hcurrent])]
      cases hopens : command.opening? with
      | none => exact ⟨memory, rfl, rfl, by simp, by simp [hcurrent]⟩
      | some stage => exact ⟨_, rfl, rfl, by simp, hturned hopens⟩
  | addressHigh =>
      rw [hquiet (by simp [hcurrent])]
      exact ⟨_, rfl, rfl, by simp, fun _ => Nat.mul_mod_left ..⟩
  | addressLow =>
      rw [hquiet (by simp [hcurrent])]
      exact ⟨_, rfl, rfl, by simp, by simp⟩
  | writeData =>
      rw [hquiet (by simp [hcurrent])]
      cases hopens : command.opening? with
      | none => exact ⟨_, if_pos hcell, rfl, by simp [toNext], by simp [toNext]⟩
      | some stage => exact ⟨_, rfl, rfl, by simp, hturned hopens⟩
  | readData =>
      have hasks : memory.asks command = command.opening?.isNone := by simp [asks, hcurrent]
      rw [hasks]
      cases hopens : command.opening? with
      | none =>
          rw [List.getElem?_eq_getElem hcell]
          exact ⟨_, rfl, rfl, by simp [toNext], by simp [toNext]⟩
      | some stage => exact ⟨_, rfl, rfl, by simp, hturned hopens⟩

/-- A command word is always accepted, and counted. -/
theorem Sound.obey_ok {memory : SerialMemory} (h : Sound memory) (command : Command) :
    ∃ after, memory.obey command = .ok after ∧
      after.commandsProcessed = memory.commandsProcessed + 1 ∧
      after.received = memory.received ++
        (if memory.asks command then memory.store[memory.address]? else none).toList ∧
      (after.stage = .addressLow → after.address % 256 = 0) := by
  obtain ⟨moved, hmoved, hcount, hreceived, hlow⟩ := h.transfer_ok command
  refine ⟨moved.conclude command.stop, ?_, ?_, hreceived, ?_⟩
  · rw [SerialMemory.obey, hmoved]
    rfl
  · rw [SerialMemory.conclude, hcount]
  · rw [SerialMemory.conclude]
    cases command.stop with
    | true => simp
    | false => exact hlow

/-! ## the other accesses -/

theorem read_fetch (memory : SerialMemory) :
    memory.read 0x04 =
      match memory.received with
      | [] => .decline memory .receiveEmpty
      | byte :: rest => .answer { memory with received := rest } byte.toUInt32 := rfl

theorem state_fetch (memory : SerialMemory) :
    (memory.read 0x04).state = { memory with received := memory.received.tail } := by
  rw [read_fetch]
  split
  next hempty =>
    rw [hempty, List.tail_nil, ← hempty]
    rfl
  next hbyte =>
    rw [hbyte]
    rfl

/-- Only a fetch changes the memory when it reads. -/
theorem state_read (memory : SerialMemory) {offset : UInt32} (hfetch : offset ≠ 0x04) :
    (memory.read offset).state = memory := by
  rw [read]
  split
  next => rfl
  next hreceive => exact absurd (Register.eq_offset hreceive) hfetch
  all_goals rfl

/-- A write beside the transfer register changes settings at most. -/
theorem state_write (memory : SerialMemory) {offset : UInt32} (hsend : offset ≠ 0x00)
    (value : UInt32) :
    ∃ settings, (memory.write offset value).state = { memory with settings } := by
  rw [write]
  split
  next htransfer => exact absurd (Register.eq_offset htransfer) hsend
  next => exact ⟨memory.settings, rfl⟩
  next which _ => exact ⟨memory.settings.set value which, rfl⟩
  all_goals exact ⟨memory.settings, rfl⟩

/-- A load changes the store alone. -/
theorem preload_eq (memory : SerialMemory) (address : Nat) (bytes : List UInt8) :
    ∃ store, memory.preload address bytes = { memory with store } := by
  induction bytes generalizing memory address with
  | nil => exact ⟨memory.store, rfl⟩
  | cons byte rest ih =>
      obtain ⟨store, hstore⟩ :=
        ih { memory with store := memory.store.set (address % storeSize) byte }
          (address % storeSize + 1)
      exact ⟨store, hstore⟩

/-! ## the memory and its transcript -/

/-- The memory is as the transcript since the last reset tells. -/
structure Accounts (history : List Note) (memory : SerialMemory) : Prop where
  sound : Sound memory
  low : memory.stage = .addressLow → memory.address % 256 = 0
  sent : memory.commandsProcessed = history.countP Note.isSend
  bytes : history.filterMap Note.returned? ++ memory.received.map UInt8.toUInt32 =
    (history.filterMap Note.found?).map UInt8.toUInt32

theorem accounts_fresh : Accounts [] fresh := ⟨sound_fresh, fun _ => rfl, rfl, rfl⟩

namespace Accounts

variable {history : List Note} {memory after : SerialMemory}

/-- An operation that has no part in the commands and the bytes. -/
theorem aside (h : Accounts history memory) {note : Note} (hsound : Sound after)
    (hstage : after.stage = memory.stage) (haddress : after.address = memory.address)
    (hcount : after.commandsProcessed = memory.commandsProcessed)
    (hreceived : after.received = memory.received) (hsend : note.isSend = false)
    (hfound : note.found? = none) (hreturned : note.returned? = none) :
    Accounts (history ++ [note]) after := by
  refine ⟨hsound, ?_, ?_, ?_⟩
  · rw [hstage, haddress]
    exact h.low
  · rw [hcount, h.sent, List.countP_append, List.countP_singleton, hsend]
    rfl
  · rw [filterMap_concat, filterMap_concat, hfound, hreturned, hreceived, Option.toList_none,
      Option.toList_none, List.append_nil, List.append_nil]
    exact h.bytes

/-- A command word is counted, and takes in the byte that it finds if it asks for one. -/
theorem send (h : Accounts history memory) (word : UInt32) :
    (memory.write 0x00 word).result = .ok () ∧
      Accounts (history ++ [⟨memory, .access (.write 0x00 word)⟩])
        (memory.write 0x00 word).state := by
  obtain ⟨next, hok, hcount, hreceived, hlow⟩ := h.sound.obey_ok (.ofWord word)
  have hwrite : memory.write 0x00 word = .accept next := h.sound.write_command hok
  rw [hwrite]
  refine ⟨rfl, h.sound.obey hok, hlow, ?_, ?_⟩
  · rw [Reply.state_accept, hcount, h.sent, List.countP_append, List.countP_singleton]
    rfl
  · have hfound : Note.found? ⟨memory, .access (.write 0x00 word)⟩ =
        if memory.asks (.ofWord word) then memory.store[memory.address]? else none := by
      simp [Note.found?]
    rw [filterMap_concat, filterMap_concat, hfound, Reply.state_accept, hreceived,
      List.map_append, List.map_append, ← h.bytes]
    simp [Note.returned?]

/-- A fetch gives the first of the bytes that wait, or is turned down if none does. -/
theorem fetch (h : Accounts history memory) :
    Accounts (history ++ [⟨memory, .access (.read 0x04)⟩]) (memory.read 0x04).state := by
  have hread := memory.read_fetch
  have hreturned : Note.returned? ⟨memory, .access (.read 0x04)⟩ =
      (memory.read 0x04).result.toOption := by
    rw [Note.returned?]
    exact if_pos rfl
  cases hreceived : memory.received with
  | nil =>
      rw [hreceived] at hread
      rw [hread] at hreturned ⊢
      exact h.aside h.sound rfl rfl rfl rfl rfl rfl hreturned
  | cons byte rest =>
      rw [hreceived] at hread
      rw [hread] at hreturned ⊢
      refine ⟨⟨h.sound.size, h.sound.address, h.sound.commands⟩, h.low, ?_, ?_⟩
      · rw [List.countP_append]
        exact h.sent
      · have hbytes := h.bytes
        rw [hreceived, List.map_cons] at hbytes
        rw [filterMap_concat, filterMap_concat, hreturned, List.append_assoc]
        simpa [Note.found?, Except.toOption] using hbytes

/-- **Step**: every operation keeps the accounts, and a reset closes them. -/
theorem operate (h : Accounts history memory) (operation : Operation) :
    Accounts
      (if Note.isReset ⟨memory, operation⟩ then [] else history ++ [⟨memory, operation⟩])
      (memory.operate operation) := by
  cases operation with
  | load address bytes =>
      obtain ⟨store, hstore⟩ := memory.preload_eq address.toNat bytes
      have hsound := h.sound.preload address.toNat bytes
      change Accounts (history ++ _) (memory.preload address.toNat bytes)
      rw [hstore] at hsound ⊢
      exact h.aside hsound rfl rfl rfl rfl rfl rfl rfl
  | access access =>
      cases access with
      | reset => exact accounts_fresh
      | read offset =>
          change Accounts (history ++ _) (memory.read offset).state
          by_cases hfetch : offset = 0x04
          · subst hfetch
            exact h.fetch
          · rw [memory.state_read hfetch]
            exact h.aside h.sound rfl rfl rfl rfl rfl rfl (if_neg hfetch)
      | write offset value =>
          change Accounts (history ++ _) (memory.write offset value).state
          by_cases hsend : offset = 0x00
          · subst hsend
            exact (h.send value).2
          · obtain ⟨settings, hstate⟩ := memory.state_write hsend value
            have hsound := h.sound.write offset value
            rw [hstate] at hsound ⊢
            exact h.aside hsound rfl rfl rfl rfl (decide_eq_false hsend)
              (if_neg fun hword => hsend hword.1) rfl

/-- **Run**: the accounts are kept through every history. -/
theorem of_run (operations : List Operation) :
    Accounts (since Note.isReset (transcript fresh operations)) (fresh.operateAll operations) := by
  induction operations using List.reverseRecOn with
  | nil => exact accounts_fresh
  | append_singleton operations operation ih =>
      rw [transcript_concat, since_concat, operateAll_concat]
      exact ih.operate operation

end Accounts

/-! ## the bits that count -/

/-- The bits of a command word that count: its byte and its flags. -/
def trim (word : UInt32) : UInt32 := word &&& 0x3FF

/-- The operation with only the bits of a command word that count. -/
def Operation.trim : Operation → Operation
  | .access (.write offset word) =>
      .access (.write offset (if offset = 0x00 then SerialMemory.trim word else word))
  | operation => operation

theorem ofWord_trim (word : UInt32) : Command.ofWord (trim word) = Command.ofWord word := by
  have hstart : hasBit (trim word) startBit = hasBit word startBit := by
    rw [trim, hasBit_and, show hasBit 0x3FF startBit = true by decide, Bool.and_true]
  have hstop : hasBit (trim word) stopBit = hasBit word stopBit := by
    rw [trim, hasBit_and, show hasBit 0x3FF stopBit = true by decide, Bool.and_true]
  have hbyte : (trim word).toUInt8 = word.toUInt8 := by
    rw [trim, UInt32.toUInt8_and, show (0x3FF : UInt32).toUInt8 = -1 by decide, UInt8.and_neg_one]
  rw [Command.ofWord, hstart, hstop, hbyte, Command.ofWord]

/-- A command word does what its byte and its flags say. -/
theorem Sound.write_trim {memory : SerialMemory} (h : Sound memory) (word : UInt32) :
    memory.write 0x00 (trim word) = memory.write 0x00 word := by
  obtain ⟨after, hok, -⟩ := h.obey_ok (.ofWord word)
  rw [h.write_command hok, h.write_command ((congrArg memory.obey (ofWord_trim word)).trans hok)]

/-- The bits that do not count leave every operation as it is. -/
theorem Sound.operate_trim {memory : SerialMemory} (h : Sound memory) (operation : Operation) :
    memory.operate operation.trim = memory.operate operation := by
  cases operation with
  | load address bytes => rfl
  | access access =>
      cases access with
      | reset => rfl
      | read offset => rfl
      | write offset word =>
          rw [Operation.trim]
          split
          next hsend =>
            subst hsend
            change (memory.write 0x00 _).state = (memory.write 0x00 _).state
            rw [h.write_trim]
          next => rfl

theorem Sound.operateAll_trim {memory : SerialMemory} (h : Sound memory)
    (operations : List Operation) :
    memory.operateAll (operations.map Operation.trim) = memory.operateAll operations := by
  induction operations generalizing memory with
  | nil => rfl
  | cons operation rest ih =>
      change (memory.operate operation.trim).operateAll (rest.map Operation.trim) = _
      rw [h.operate_trim]
      exact ih (h.operate operation)

/-! ## what the master shows -/

/-- **The serial memory keeps its accounts.**  After any history no command waits; every
command word is accepted and counted; the address lies in the store, with no low byte while
that is awaited; the bytes that were fetched, with those that wait, are the bytes that were
asked for, each as the store held it then; and the bits above the flags of command words
could all have been zero. -/
theorem accounts_of_run (operations : List Operation) :
    let memory := fresh.operateAll operations
    let history := since Note.isReset (transcript fresh operations)
    memory.commands = [] ∧
      memory.read 0x14 = .answer memory 0 ∧
      memory.read 0x18 = .answer memory 0 ∧
      memory.address < storeSize ∧
      (memory.stage = .addressLow → memory.address % 256 = 0) ∧
      memory.commandsProcessed = history.countP Note.isSend ∧
      (∀ word, (memory.write 0x00 word).result = .ok ()) ∧
      (∀ word, memory.write 0x00 (trim word) = memory.write 0x00 word) ∧
      fresh.operateAll (operations.map Operation.trim) = memory ∧
      history.filterMap Note.returned? ++ memory.received.map UInt8.toUInt32 =
        (history.filterMap Note.found?).map UInt8.toUInt32 ∧
      (memory.received = [] → memory.read 0x04 = .decline memory .receiveEmpty) ∧
      (∀ byte rest, memory.received = byte :: rest →
        memory.read 0x04 = .answer { memory with received := rest } byte.toUInt32) ∧
      (memory.received.length < UInt32.size →
        ∃ level, memory.read 0x1C = .answer memory level ∧
          level.toNat = memory.received.length) := by
  intro memory history
  have h : Accounts history memory := Accounts.of_run operations
  have hempty (hnone : memory.received = []) :
      memory.read 0x04 = .decline memory .receiveEmpty := by
    rw [read_fetch, hnone]
  have hfetched (byte : UInt8) (rest : List UInt8) (hsome : memory.received = byte :: rest) :
      memory.read 0x04 = .answer { memory with received := rest } byte.toUInt32 := by
    rw [read_fetch, hsome]
  have hlevel (hfits : memory.received.length < UInt32.size) :
      ∃ level, memory.read 0x1C = .answer memory level ∧
        level.toNat = memory.received.length :=
    ⟨UInt32.ofNat memory.received.length, rfl, UInt32.toNat_ofNat_of_lt' hfits⟩
  exact ⟨h.sound.commands, rfl, rfl, h.sound.address, h.low, h.sent, fun word => (h.send word).1,
    h.sound.write_trim, sound_fresh.operateAll_trim operations, h.bytes, hempty, hfetched,
    hlevel⟩

/-- Two bytes are read from the current address, the first with bits that do not count; one is
fetched and one waits. -/
example :
    let operations : List Operation :=
      [.load 0 [7, 8], .access (send 0x2DD), .access (send 0xFFFFFC00), .access (send 0),
        .access fetch]
    (transcript fresh operations).filterMap Note.returned? = [7] ∧
      (fresh.operateAll operations).received = [8] ∧
      (transcript fresh operations).filterMap Note.found? = [7, 8] := by
  decide

end BoardSim.SerialMemory
