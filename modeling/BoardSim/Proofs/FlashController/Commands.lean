import BoardSim.Proofs.Device.History
import BoardSim.Proofs.Device.PlainRegisters
import BoardSim.Proofs.Device.Safety
import BoardSim.Proofs.Flash.Access

/-!
# BoardSim.Proofs.FlashController.Commands

What the flash controller shows, told from the commands that it carried out since the last
reset.

A command is what the registers stated when it was started: the byte that was set last, on
the chip that the pins selected (`carriedOut`).  Between two accesses anything may become of
the board.

1. the status of a chip is that of the last command on it that turns its latch
   (`lastTurn?`);
2. the erases are counted by size, over both chips;
3. an erase that does not fit, a byte that is no command, and a word without the bit that
   starts one change nothing.

`Effect` says once what a command makes of the controller, and `Shows` is what each access
keeps.
-/

namespace BoardSim.FlashController

open RegisterDevice (perform)
open History (since last? since_concat since_noted last?_concat)
open Flash (Chip)

instance : RegisterDevice (FlashController × Board) where
  readAt state offset := (state.1.read offset).mapState fun after => (after, state.2)
  writeAt state := state.1.write state.2
  powerUp state := (fresh, { state.2 with flash := state.2.flash.reset })

/-! ## events -/

/-- What happens to a controller on its board: an access of the firmware, or any other
change of the board, such as one of the pins. -/
inductive Event where
  | access (access : DeviceAccess)
  | outside (change : Board → Board)

/-- The controller and the board after an event. -/
def act (state : FlashController × Board) : Event → FlashController × Board
  | .access access => (perform state access).state
  | .outside change => (state.1, change state.2)

/-- The controller and the board after a sequence of events. -/
def actAll (state : FlashController × Board) (events : List Event) : FlashController × Board :=
  events.foldl act state

/-- An access that was accepted, and the chip that the pins selected then. -/
structure Entry where
  chip : Chip
  access : DeviceAccess
deriving DecidableEq

/-- The entry that an event leaves in the log. -/
def record? (state : FlashController × Board) : Event → Option Entry
  | .access access =>
      if (perform state access).result.isOk then some ⟨state.2.pins.selected, access⟩ else none
  | .outside _ => none

/-- The accesses of a sequence of events that were accepted, in order. -/
def log (state : FlashController × Board) : List Event → List Entry
  | [] => []
  | event :: rest => (record? state event).toList ++ log (act state event) rest

theorem actAll_concat (state : FlashController × Board) (events : List Event) (event : Event) :
    actAll state (events ++ [event]) = act (actAll state events) event :=
  List.foldl_append

theorem log_concat (state : FlashController × Board) (events : List Event) (event : Event) :
    log state (events ++ [event]) =
      log state events ++ (record? (actAll state events) event).toList := by
  induction events generalizing state with
  | nil => exact List.append_nil _
  | cons first rest ih =>
      rw [List.cons_append, log, ih, log, List.append_assoc]
      rfl

/-! ## commands -/

/-- A command: its byte, and the chip that it acts on. -/
structure Command where
  chip : Chip
  byte : UInt8
deriving DecidableEq

/-- The word that an access stores in a register; each register answers to four offsets. -/
def stored? (register : UInt32) (entry : Entry) : Option UInt32 :=
  match entry.access with
  | .write offset value => if offset.toNat / 4 = register.toNat / 4 then some value else none
  | _ => none

/-- The word that was stored last in a register. -/
def lastWord (register : UInt32) (history : List Entry) : UInt32 :=
  (last? (stored? register) history).getD 0

/-- The byte of the command that the registers state. -/
def commandByte (history : List Entry) : UInt8 := (lastWord commandSetting history).toUInt8

/-- The address that the registers state. -/
def addressWord (history : List Entry) : UInt32 := lastWord commandAddress history

/-- Is a command started? -/
def isStart : DeviceAccess → Bool
  | .write offset value => offset = commandControl && hasBit value 0
  | _ => false

/-- The commands that were carried out, oldest first, of a history with the newest entry
first. -/
def carriedOutBefore : List Entry → List Command
  | [] => []
  | entry :: before =>
      if isStart entry.access then
        carriedOutBefore before ++ [⟨entry.chip, commandByte before.reverse⟩]
      else carriedOutBefore before

/-- The commands that were carried out, oldest first. -/
def carriedOut (history : List Entry) : List Command := carriedOutBefore history.reverse

/-- Does a command turn the latch of its chip: write-enable, write-disable, or an erase? -/
def turnsLatch (byte : UInt8) : Bool := byte = 0x06 || byte = 0x04 || byte = 0x20 || byte = 0xD8

/-- The last command on a chip that turned its latch. -/
def lastTurn? (chip : Chip) (commands : List Command) : Option UInt8 :=
  last? (fun command => if command.chip = chip ∧ turnsLatch command.byte then some command.byte
    else none) commands

/-- How many bytes a command erases. -/
def eraseLength? (byte : UInt8) : Option Nat :=
  if byte = 0x20 then some sectorSize else if byte = 0xD8 then some blockSize else none

theorem lastWord_concat (register : UInt32) (history : List Entry) (entry : Entry) :
    lastWord register (history ++ [entry]) =
      (stored? register entry).getD (lastWord register history) := by
  rw [lastWord, last?_concat]
  cases stored? register entry <;> rfl

theorem carriedOut_concat (history : List Entry) (entry : Entry) :
    carriedOut (history ++ [entry]) =
      if isStart entry.access then carriedOut history ++ [⟨entry.chip, commandByte history⟩]
      else carriedOut history := by
  rw [carriedOut, List.reverse_append, List.reverse_singleton, List.singleton_append,
    carriedOutBefore, List.reverse_reverse]
  rfl

theorem lastTurn?_concat (chip : Chip) (commands : List Command) (command : Command) :
    lastTurn? chip (commands ++ [command]) =
      if command.chip = chip ∧ turnsLatch command.byte then some command.byte
      else lastTurn? chip commands := by
  rw [lastTurn?, last?_concat]
  split <;> rfl

/-! ## what a command does -/

/-- What a command on a chip makes of the controller once it is accepted. -/
inductive Effect (controller : FlashController) (chip : Chip) (byte : UInt8) :
    FlashController → Prop where
  | eraseSector (hbyte : byte = 0x20) :
      Effect controller chip byte
        { controller.withLatch false chip with
          sectorErases := (controller.withLatch false chip).sectorErases + 1 }
  | eraseBlock (hbyte : byte = 0xD8) :
      Effect controller chip byte
        { controller.withLatch false chip with
          blockErases := (controller.withLatch false chip).blockErases + 1 }
  | writeEnable (hbyte : byte = 0x06) :
      Effect controller chip byte (controller.withLatch true chip)
  | writeDisable (hbyte : byte = 0x04) :
      Effect controller chip byte (controller.withLatch false chip)
  | answer (hbyte : byte = 0x05 ∨ byte = 0x9F) (word : UInt32) :
      Effect controller chip byte (controller.set dataLow word)
  | nothing (hbyte : Opcode.ofByte? byte = none) : Effect controller chip byte controller

theorem latch_withLatch (controller : FlashController) (value : Bool) (chip other : Chip) :
    (controller.withLatch value chip).latch other =
      if chip = other then value else controller.latch other := by
  cases chip <;> cases other <;> rfl

/-- An erase is carried out if it lies in the selected image, and is turned down if not. -/
theorem erase_eq (controller : FlashController) (board : Board) (address : UInt32) (length : Nat)
    (count : FlashController → FlashController) :
    (address.toNat + length ≤ board.selectedImage.size ∧
      (controller.erase board address length count).result = .ok () ∧
      (controller.erase board address length count).state.1 =
        count (controller.withLatch false board.pins.selected)) ∨
    (board.selectedImage.size < address.toNat + length ∧
      controller.erase board address length count =
        .decline (controller, board) (.eraseOutside length address board.pins.selected)) := by
  rw [erase, Flash.Image.erase?, Flash.Image.fill?, Flash.Image.covers]
  by_cases hfit : address.toNat + length ≤ board.selectedImage.size
  · simp only [hfit, decide_true, if_true]
    exact .inl ⟨trivial, rfl, rfl⟩
  · simp only [hfit, decide_false, Bool.false_eq_true, if_false]
    exact .inr ⟨Nat.lt_of_not_le hfit, trivial⟩

/-- A command is accepted and has its effect, or it is turned down and has none. -/
theorem execute_cases {controller : FlashController} {setting address : UInt32}
    (hsetting : controller.get? commandSetting = some setting)
    (haddress : controller.get? commandAddress = some address) (board : Board) :
    (∃ cause, controller.execute board = .decline (controller, board) cause) ∨
      ((controller.execute board).result = .ok () ∧
        Effect controller board.pins.selected setting.toUInt8
          (controller.execute board).state.1) := by
  simp only [execute, hsetting, haddress]
  split
  next hopcode =>
    have hbyte := Opcode.ofByte?_eq_some_iff.mp hopcode
    obtain ⟨-, hok, hstate⟩ | ⟨-, hdecline⟩ := controller.erase_eq board address sectorSize _
    · exact .inr ⟨hok, hstate ▸ .eraseSector hbyte⟩
    · exact .inl ⟨_, hdecline⟩
  next hopcode =>
    have hbyte := Opcode.ofByte?_eq_some_iff.mp hopcode
    obtain ⟨-, hok, hstate⟩ | ⟨-, hdecline⟩ := controller.erase_eq board address blockSize _
    · exact .inr ⟨hok, hstate ▸ .eraseBlock hbyte⟩
    · exact .inl ⟨_, hdecline⟩
  next hopcode => exact .inr ⟨rfl, .writeEnable (Opcode.ofByte?_eq_some_iff.mp hopcode)⟩
  next hopcode => exact .inr ⟨rfl, .writeDisable (Opcode.ofByte?_eq_some_iff.mp hopcode)⟩
  next hopcode => exact .inr ⟨rfl, .answer (.inl (Opcode.ofByte?_eq_some_iff.mp hopcode)) _⟩
  next hopcode => exact .inr ⟨rfl, .answer (.inr (Opcode.ofByte?_eq_some_iff.mp hopcode)) _⟩
  next hopcode => exact .inr ⟨rfl, .nothing hopcode⟩

/-! ## the controller and its history -/

/-- The registers that state a command. -/
def statement : List UInt32 := [commandSetting, commandAddress]

theorem mem_statement {register : UInt32} :
    register ∈ statement ↔ register = commandSetting ∨ register = commandAddress := by
  simp [statement]

/-- They are not written with the data registers, nor with the one that starts commands. -/
theorem stored?_eq_none {register : UInt32} (hregister : register ∈ statement) {offset : UInt32}
    (hoffset : offset = commandControl ∨ offset = dataLow ∨ offset = dataHigh) (chip : Chip)
    (value : UInt32) : stored? register ⟨chip, .write offset value⟩ = none := by
  obtain rfl | rfl := mem_statement.mp hregister <;> obtain rfl | rfl | rfl := hoffset <;> rfl

/-- The controller shows what the history tells. -/
structure Shows (history : List Entry) (controller : FlashController) : Prop where
  size : controller.Sound
  stored : ∀ register ∈ statement,
    controller.get? register = some (lastWord register history)
  latch : ∀ chip,
    controller.latch chip = decide (lastTurn? chip (carriedOut history) = some 0x06)
  sectorErases : controller.sectorErases = (carriedOut history).countP (·.byte = 0x20)
  blockErases : controller.blockErases = (carriedOut history).countP (·.byte = 0xD8)

theorem shows_fresh : Shows [] fresh where
  size := sound_fresh
  stored := by
    intro register hregister
    obtain rfl | rfl := mem_statement.mp hregister <;> rfl
  latch chip := by cases chip <;> rfl
  sectorErases := rfl
  blockErases := rfl

namespace Shows

variable {history : List Entry} {controller after : FlashController} {entry : Entry}

theorem setting (h : Shows history controller) :
    controller.get? commandSetting = some (lastWord commandSetting history) :=
  h.stored commandSetting (by decide)

theorem address (h : Shows history controller) :
    controller.get? commandAddress = some (addressWord history) :=
  h.stored commandAddress (by decide)

/-- The registers after an access, from what it stores. -/
theorem stored_concat (h : Shows history controller)
    (hstored : ∀ register ∈ statement,
      after.get? register = (stored? register entry).or (controller.get? register)) :
    ∀ register ∈ statement,
      after.get? register = some (lastWord register (history ++ [entry])) := by
  intro register hregister
  rw [hstored register hregister, h.stored register hregister, lastWord_concat]
  cases stored? register entry <;> rfl

/-- An access that starts no command has a part in the registers alone. -/
theorem aside (h : Shows history controller) (hstart : isStart entry.access = false)
    (hsize : after.Sound)
    (hstored : ∀ register ∈ statement,
      after.get? register = (stored? register entry).or (controller.get? register))
    (hlatch : ∀ chip, after.latch chip = controller.latch chip)
    (hsector : after.sectorErases = controller.sectorErases)
    (hblock : after.blockErases = controller.blockErases) :
    Shows (history ++ [entry]) after := by
  have hcommands : carriedOut (history ++ [entry]) = carriedOut history := by
    rw [carriedOut_concat, hstart]
    rfl
  refine ⟨hsize, h.stored_concat hstored, ?_, ?_, ?_⟩
  · intro chip
    rw [hlatch, hcommands, h.latch]
  · rw [hsector, hcommands, h.sectorErases]
  · rw [hblock, hcommands, h.blockErases]

/-- An access that changes nothing, and stores and starts nothing. -/
theorem unchanged (h : Shows history controller) (hstart : isStart entry.access = false)
    (hstored : ∀ register ∈ statement, stored? register entry = none) :
    Shows (history ++ [entry]) controller := by
  refine h.aside hstart h.size (fun register hregister => ?_) (fun _ => rfl) rfl rfl
  rw [hstored register hregister, Option.none_or]

/-- A command turns the latch of its chip if it is one of those that do, and is counted. -/
theorem command (h : Shows history controller) {chip : Chip} {value : UInt32}
    (hstart : hasBit value 0 = true) (hsize : after.Sound)
    (hstored : ∀ register ∈ statement, after.get? register = controller.get? register)
    (hlatch : ∀ other, after.latch other =
      if chip = other ∧ turnsLatch (commandByte history) then
        decide (commandByte history = 0x06)
      else controller.latch other)
    (hsector : after.sectorErases =
      controller.sectorErases + if commandByte history = 0x20 then 1 else 0)
    (hblock : after.blockErases =
      controller.blockErases + if commandByte history = 0xD8 then 1 else 0) :
    Shows (history ++ [⟨chip, .write commandControl value⟩]) after := by
  have hcommands : carriedOut (history ++ [⟨chip, .write commandControl value⟩]) =
      carriedOut history ++ [⟨chip, commandByte history⟩] := by
    rw [carriedOut_concat, isStart, hstart]
    rfl
  refine ⟨hsize, h.stored_concat fun register hregister => ?_, ?_, ?_, ?_⟩
  · rw [hstored register hregister, stored?_eq_none hregister (.inl rfl), Option.none_or]
  · intro other
    rw [hlatch, hcommands, lastTurn?_concat, h.latch]
    split
    next => simp
    next => rfl
  · rw [hsector, hcommands, List.countP_append, List.countP_singleton, h.sectorErases]
    simp
  · rw [hblock, hcommands, List.countP_append, List.countP_singleton, h.blockErases]
    simp

/-- A command that turns the latch of its chip. -/
theorem turn (h : Shows history controller) {chip : Chip} {value : UInt32} {on : Bool}
    (hstart : hasBit value 0 = true) (hturns : turnsLatch (commandByte history) = true)
    (hon : on = decide (commandByte history = 0x06))
    (hregisters : after.registers = controller.registers)
    (hlatch : after.latch = (controller.withLatch on chip).latch)
    (hsector : after.sectorErases =
      controller.sectorErases + if commandByte history = 0x20 then 1 else 0)
    (hblock : after.blockErases =
      controller.blockErases + if commandByte history = 0xD8 then 1 else 0) :
    Shows (history ++ [⟨chip, .write commandControl value⟩]) after := by
  have hsize : after.Sound := (congrArg List.length hregisters).trans h.size
  refine h.command hstart hsize (fun register _ => ?_) (fun other => ?_) hsector hblock
  · rw [get?, hregisters, get?]
  · rw [hlatch, latch_withLatch, hturns, hon]
    simp only [and_true]

/-- **Step**: a command that is accepted. -/
theorem carried (h : Shows history controller) {chip : Chip} {value : UInt32}
    (hstart : hasBit value 0 = true)
    (heffect : Effect controller chip (commandByte history) after) :
    Shows (history ++ [⟨chip, .write commandControl value⟩]) after := by
  cases heffect with
  | eraseSector hbyte | eraseBlock hbyte | writeEnable hbyte | writeDisable hbyte =>
      refine h.turn hstart (by rw [hbyte]; decide) (by rw [hbyte]; decide) ?_ rfl ?_ ?_
      · cases chip <;> rfl
      all_goals rw [hbyte]; cases chip <;> rfl
  | answer hbyte word =>
      obtain hbyte | hbyte := hbyte
      all_goals
        refine h.command hstart (h.size.set ..) ?_ ?_ ?_ ?_
        · intro register hregister
          have hbelow : register < dataLow := by
            obtain rfl | rfl := mem_statement.mp hregister <;> decide
          exact controller.get?_set_dataLow word hbelow
        · intro other
          rw [hbyte, if_neg (fun hturn => absurd hturn.2 (by decide))]
          cases other <;> rfl
        · rw [hbyte]
          rfl
        · rw [hbyte]
          rfl
  | nothing hbyte =>
      simp only [Opcode.ofByte?_eq_none_iff, List.mem_cons, List.not_mem_nil, or_false,
        not_or] at hbyte
      obtain ⟨hsector, hblock, henable, hdisable, -, -⟩ := hbyte
      have hturns : turnsLatch (commandByte history) = false := by
        simp [turnsLatch, hsector, hblock, henable, hdisable]
      refine h.command hstart h.size (fun _ _ => rfl) (fun other => ?_) ?_ ?_
      · rw [hturns, if_neg (fun hturn => Bool.false_ne_true hturn.2)]
      · rw [if_neg hsector]
        rfl
      · rw [if_neg hblock]
        rfl

end Shows

/-! ## single accesses -/

/-- Reading a register changes nothing. -/
theorem state_read (controller : FlashController) (offset : UInt32) :
    (controller.read offset).state = controller := by
  rw [read]
  repeat' split
  all_goals rfl

/-- A write to the register that starts commands carries one out if bit 0 is set, and
changes nothing if it is not. -/
theorem write_commandControl (controller : FlashController) (board : Board) (value : UInt32) :
    controller.write board commandControl value =
      if hasBit value 0 then controller.execute board else .accept (controller, board) := by
  rw [write, if_pos rfl]

namespace Shows

variable {history : List Entry} {controller : FlashController}

theorem read (h : Shows history controller) (chip : Chip) (offset : UInt32) :
    Shows
      (if (controller.read offset).result.isOk then history ++ [⟨chip, .read offset⟩] else history)
      (controller.read offset).state := by
  rw [state_read]
  split
  next => exact h.unchanged rfl fun _ _ => rfl
  next => exact h

/-- The word of a register that no command is started in. -/
theorem set (h : Shows history controller) {offset : UInt32} (hcontrol : offset ≠ commandControl)
    (hinside : offset.toNat / 4 < controller.registers.length) (chip : Chip) (value : UInt32) :
    Shows (history ++ [⟨chip, .write offset value⟩]) (controller.set offset value) := by
  have hstart : isStart (.write offset value) = false := by simp [isStart, hcontrol]
  refine h.aside hstart (h.size.set ..) (fun register _ => ?_) (fun other => ?_) rfl rfl
  · rw [get?, FlashController.set, List.getElem?_set, if_pos hinside, get?]
    simp only [stored?]
    split <;> rfl
  · cases other <;> rfl

/-- **Step**: a write. -/
theorem write (h : Shows history controller) (board : Board) (offset value : UInt32) :
    Shows
      (if (controller.write board offset value).result.isOk then
        history ++ [⟨board.pins.selected, .write offset value⟩]
      else history)
      (controller.write board offset value).state.1 := by
  by_cases hcontrol : offset = commandControl
  · subst hcontrol
    rw [write_commandControl]
    split
    next hstart =>
      obtain ⟨cause, hdecline⟩ | ⟨hok, heffect⟩ := execute_cases h.setting h.address board
      · rw [hdecline]
        exact h
      · rw [hok]
        exact h.carried hstart heffect
    next hstart =>
      exact h.unchanged (by simp [isStart, hstart])
        fun register hregister => stored?_eq_none hregister (.inl rfl) _ value
  · rw [FlashController.write, if_neg hcontrol]
    split
    next hdata =>
      exact h.unchanged (by simp [isStart, hcontrol])
        fun register hregister => stored?_eq_none hregister (.inr hdata) _ value
    next =>
      split
      next hoffset =>
        have hinside := h.size.index_lt hoffset
        rw [if_pos hinside]
        exact h.set hcontrol hinside _ value
      next => exact h

end Shows

/-- The low data register reads as it was set. -/
theorem result_read_dataLow {controller : FlashController} (h : controller.Sound) (word : UInt32) :
    ((controller.set dataLow word).read dataLow).result = .ok word := by
  have hinside : dataLow.toNat / 4 < controller.registers.length := h.index_lt (by decide)
  have hword : (controller.set dataLow word).get? dataLow = some word :=
    List.getElem?_set_self hinside
  rw [read, if_neg (by decide), if_pos (by decide), hword]
  rfl

/-! ## the next command -/

namespace Shows

variable {history : List Entry} {controller : FlashController}

/-- A status read puts the status of the selected chip into the low data register. -/
theorem execute_eq_status (h : Shows history controller) (hbyte : commandByte history = 0x05)
    (board : Board) :
    controller.execute board =
      .accept (controller.set dataLow (controller.status board.pins.selected), board) := by
  have hopcode : Opcode.ofByte? (lastWord commandSetting history).toUInt8 = some .readStatus :=
    Opcode.ofByte?_eq_some_iff.mpr hbyte
  simp only [execute, h.setting, h.address, hopcode]

/-- An erase covers the bytes from the address that was set last. -/
theorem execute_eq_erase (h : Shows history controller) {length : Nat}
    (hlength : eraseLength? (commandByte history) = some length) (board : Board) :
    ∃ count, controller.execute board =
      controller.erase board (addressWord history) length count := by
  simp only [execute, h.setting, h.address]
  rw [eraseLength?] at hlength
  split at hlength
  next hbyte =>
    have hopcode : Opcode.ofByte? (lastWord commandSetting history).toUInt8 = some .eraseSector :=
      Opcode.ofByte?_eq_some_iff.mpr hbyte
    rw [hopcode, Option.some.inj hlength]
    exact ⟨_, rfl⟩
  next =>
    rw [Option.ite_none_right_eq_some] at hlength
    obtain ⟨hbyte, hlength⟩ := hlength
    have hopcode : Opcode.ofByte? (lastWord commandSetting history).toUInt8 = some .eraseBlock :=
      Opcode.ofByte?_eq_some_iff.mpr hbyte
    rw [hopcode, Option.some.inj hlength]
    exact ⟨_, rfl⟩

/-- A byte that is no command has no effect. -/
theorem execute_eq_accept (h : Shows history controller)
    (hbyte : commandByte history ∉ [0x20, 0xD8, 0x06, 0x04, 0x05, 0x9F]) (board : Board) :
    controller.execute board = .accept (controller, board) := by
  have hopcode : Opcode.ofByte? (lastWord commandSetting history).toUInt8 = none :=
    Opcode.ofByte?_eq_none_iff.mpr hbyte
  simp only [execute, h.setting, h.address, hopcode]

end Shows

/-! ## runs -/

/-- **Run**: the controller shows what happened to it since the last reset. -/
theorem shows_actAll (board : Board) (events : List Event) :
    Shows (since (fun entry => entry.access = .reset) (log (fresh, board) events))
      (actAll (fresh, board) events).1 := by
  induction events using List.reverseRecOn with
  | nil => exact shows_fresh
  | append_singleton events event ih =>
      rw [log_concat, actAll_concat]
      generalize actAll (fresh, board) events = state at ih ⊢
      cases event with
      | outside change =>
          rw [record?, Option.toList_none, List.append_nil]
          exact ih
      | access access =>
          have hnoted : log (fresh, board) events ++ (record? state (.access access)).toList =
              if (perform state access).result.isOk then
                log (fresh, board) events ++ [⟨state.2.pins.selected, access⟩]
              else log (fresh, board) events := by
            rw [record?]
            split <;> simp
          rw [hnoted]
          cases access with
          | read offset =>
              simp only [perform, isOk_map]
              rw [since_noted _ _ _ rfl]
              exact ih.read _ offset
          | write offset value =>
              simp only [perform, isOk_map]
              rw [since_noted _ _ _ rfl]
              exact ih.write state.2 offset value
          | reset =>
              simp only [perform, isOk_ok, if_true, since_concat, decide_true]
              exact shows_fresh

/-- **Commands**: after any accesses, with any changes of the board between them, the
controller shows what the log tells since the last reset.

1. The status of a chip has its latch set if the last command on it that turned the latch
   was write-enable.
2. The erases that were carried out are counted by size.
3. The next command acts on the chip that the pins select now.  A status read puts the status
   of that chip into the low data register; an erase is accepted if it lies in the image of
   that chip and otherwise leaves the controller and the board as they were; a byte that is
   none of the six commands changes nothing.
4. A word without the bit that starts commands changes nothing. -/
theorem effects_of_run (board : Board) (events : List Event) :
    let state := actAll (fresh, board) events
    let history := since (fun entry => entry.access = .reset) (log (fresh, board) events)
    let commands := carriedOut history
    let byte := commandByte history
    let address := addressWord history
    let selected := state.2.pins.selected
    (∀ chip, state.1.status chip = if lastTurn? chip commands = some 0x06 then 0x02 else 0) ∧
    state.1.sectorErases = commands.countP (·.byte = 0x20) ∧
    state.1.blockErases = commands.countP (·.byte = 0xD8) ∧
    (∀ value, hasBit value 0 = true →
      let reply := state.1.write state.2 commandControl value
      (byte = 0x05 →
        reply = .accept (state.1.set dataLow (state.1.status selected), state.2) ∧
        (reply.state.1.read dataLow).result =
          .ok (if lastTurn? selected commands = some 0x06 then 0x02 else 0)) ∧
      (∀ length, eraseLength? byte = some length →
        (address.toNat + length ≤ (state.2.flash.image selected).size → reply.result = .ok ()) ∧
        ((state.2.flash.image selected).size < address.toNat + length →
          reply = .decline state (.eraseOutside length address selected))) ∧
      (byte ∉ [0x20, 0xD8, 0x06, 0x04, 0x05, 0x9F] → reply = .accept state)) ∧
    ∀ value, hasBit value 0 = false →
      state.1.write state.2 commandControl value = .accept state := by
  intro state history commands byte address selected
  have hshows : Shows history state.1 := shows_actAll board events
  have hstatus (chip : Chip) :
      state.1.status chip = if lastTurn? chip commands = some 0x06 then 0x02 else 0 := by
    rw [status, hshows.latch]
    simp only [decide_eq_true_eq]
    rfl
  refine ⟨hstatus, hshows.sectorErases, hshows.blockErases, ?_, ?_⟩
  · intro value hstart reply
    have hreply : reply = state.1.execute state.2 :=
      (write_commandControl ..).trans (if_pos hstart)
    refine ⟨?_, ?_, ?_⟩
    · intro hbyte
      rw [hreply, hshows.execute_eq_status hbyte, ← hstatus]
      exact ⟨rfl, result_read_dataLow hshows.size _⟩
    · intro length hlength
      obtain ⟨count, herase⟩ := hshows.execute_eq_erase hlength state.2
      rw [hreply, herase]
      obtain ⟨hfit, hok, -⟩ | ⟨hmisfit, hdecline⟩ := state.1.erase_eq state.2 address length count
      · exact ⟨fun _ => hok, fun hmisfit => absurd hfit (Nat.not_le_of_lt hmisfit)⟩
      · exact ⟨fun hfit => absurd hfit (Nat.not_le_of_lt hmisfit), fun _ => hdecline⟩
    · intro hunknown
      exact hreply.trans (hshows.execute_eq_accept hunknown state.2)
  · intro value hstart
    rw [write_commandControl, hstart]
    rfl

/-- Both chips are write-enabled, and a sector is not erased where the image has none. -/
example :
    let start (byte : UInt32) : List Event :=
      [.access (.write 0x1C byte), .access (.write 0x20 1)]
    let route : Event := .outside fun board => { board with pins := { outputs := 0x40 } }
    let state := actAll (fresh, .fresh 0x800 0x1000)
      (start 0x06 ++ [route] ++ start 0x06 ++ start 0x20)
    state.1.status .bmc = 0x02 ∧ state.1.status .pch = 0x02 ∧ state.1.sectorErases = 0 :=
  ⟨rfl, rfl, rfl⟩

end BoardSim.FlashController
