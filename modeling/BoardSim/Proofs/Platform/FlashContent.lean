import BoardSim.Proofs.FlashController.Commands
import BoardSim.Proofs.Platform.FlashHistory
import BoardSim.Proofs.Platform.PlainRegisters

/-!
# BoardSim.Proofs.Platform.FlashContent

What the flash chips of a board that was built hold after any operations.

The history of the chips (`changes`) tells each of their bytes.  Which erase a command asks
for is in turn told by the words that were set last: the command and its address by those of
the two registers that state it (`Standard.asked_command`), and the chip by the outputs of
the pins (`Standard.outputs_of_plain`).  So the operations alone tell what the chips hold.
-/

namespace BoardSim

/-- The erase that a command with these two words states, if it is one. -/
def FlashController.erasure (chip : Flash.Chip) (setting address : UInt32) : List Flash.Change :=
  ((eraseLength? setting.toUInt8).map (.erased chip address.toNat)).toList

theorem FlashController.commanded_eq {controller : FlashController} {setting address : UInt32}
    (hsetting : controller.get? commandSetting = some setting)
    (haddress : controller.get? commandAddress = some address) (chip : Flash.Chip)
    (value : UInt32) :
    controller.commanded chip value =
      if hasBit value 0 then erasure chip setting address else [] := by
  rw [commanded, statedErase?, hsetting, haddress, erasure, eraseLength?]
  by_cases hsector : setting.toUInt8 = 0x20
  · simp [hsector]
  by_cases hblock : setting.toUInt8 = 0xD8
  · simp [hblock]
  · simp [hsector, hblock]

namespace Platform

open Flash (Chip Change)

/-! ## the registers that tell what is done to the chips -/

/-- The output word of the pins. -/
def outputsRegister : PlainRegister where
  name := pinsName
  range := ⟨0x1000, 0x10⟩
  offset := 0
  placed := by decide
  plain := .outputs

/-- The register whose lowest byte is the command. -/
def settingRegister : PlainRegister where
  name := flashControllerName
  range := ⟨0x1500, 0x40⟩
  offset := FlashController.commandSetting
  placed := by decide
  plain := .controller (by decide) (by decide) (by decide)

/-- The register of the address that a command acts on. -/
def addressRegister : PlainRegister where
  name := flashControllerName
  range := ⟨0x1500, 0x40⟩
  offset := FlashController.commandAddress
  placed := by decide
  plain := .controller (by decide) (by decide) (by decide)

theorem run_eq_actAll (bus : Bus) (operations : List Operation) :
    run bus operations = actAll bus (operations.map .operation) := by
  rw [actAll, List.foldl_map]
  rfl

/-- The word that a register of a board at power-up has after a sequence of operations: the one
that it was given last, or zero. -/
def lastWord (bus : Bus) (operations : List Operation) (register : PlainRegister) : UInt32 :=
  lastSet register 0 bus (operations.map .operation)

variable {manifest : Manifest} {bus : Bus}

theorem Standard.plain?_run (h : Standard manifest bus) {register : PlainRegister}
    (hzero : bus.plain? register.address = some 0) (operations : List Operation) :
    (Platform.run bus operations).plain? register.address =
      some (lastWord bus operations register) := by
  rw [run_eq_actAll]
  exact h.plain?_actAll hzero (operations.map .operation)

/-! ## the devices behind the registers -/

theorem Standard.pins_at (h : Standard manifest bus) :
    bus.mounts[0]? = some ⟨pinsName, ⟨0x1000, 0x10⟩, .pins⟩ := by
  obtain ⟨device, hdevice, hmount⟩ := h.mount_at 0 rfl
  cases device with
  | pins => exact hmount
  | _ => cases hdevice

/-- The outputs of the pins are the word of their register. -/
theorem Standard.outputs_of_plain (h : Standard manifest bus) {word : UInt32}
    (hword : bus.plain? outputsRegister.address = some word) : bus.board.pins.outputs = word := by
  rw [h.plain?_eq h.pins_at rfl] at hword
  exact (PinRegisters.plain?_eq_some_iff.mp hword).2

/-- A word that starts a command asks for the erase that the words of the two registers
state. -/
theorem Standard.asked_command (h : Standard manifest bus) {setting address : UInt32}
    (hsetting : bus.plain? settingRegister.address = some setting)
    (haddress : bus.plain? addressRegister.address = some address) (value : UInt32) :
    asked bus commandRegister value =
      if hasBit value 0 then
        FlashController.erasure bus.board.pins.selected setting address
      else [] := by
  obtain ⟨controller, hcontroller⟩ := h.controller_at
  rw [h.plain?_eq hcontroller rfl] at hsetting haddress
  obtain ⟨-, -, hsetting⟩ := FlashController.plain?_eq_some_iff.mp hsetting
  obtain ⟨-, -, haddress⟩ := FlashController.plain?_eq_some_iff.mp haddress
  have hcommand : commandRegister - 0x1500 = FlashController.commandControl := rfl
  rw [h.asked_controller hcontroller (by decide), if_pos hcommand]
  exact FlashController.commanded_eq hsetting haddress bus.board.pins.selected value

/-- **Flash content**: whatever is done to a board that was built, its images keep
their sizes, and each byte is the one that was supplied last with all that was programmed
since cleared into it.  A command asks for the erase that its two registers were last told,
on the chip that the outputs were last told to select.  So bits are only cleared until a
byte is supplied again; a write leaves the chip alone that is not selected; and the window
shows the selected image, to the bus where the address is a multiple of four and no fault
was requested. -/
theorem flash_content {plan : Plan} {environment : Option String} {bus : Bus}
    (hbuild : plan.build environment = .ok bus) (operations : List Operation) :
    let after := run bus operations
    let last := lastWord bus operations
    (∀ chip, (after.board.flash.image chip).size = (bus.board.flash.image chip).size) ∧
    (∀ chip offset, offset < (bus.board.flash.image chip).size →
      (after.board.flash.image chip).byte offset =
        Change.content chip offset (changes bus operations)) ∧
    (∀ value, asked after commandRegister value =
      if hasBit value 0 then
        FlashController.erasure after.board.pins.selected (last settingRegister)
          (last addressRegister)
      else []) ∧
    after.board.pins.outputs = last outputsRegister ∧
    (∀ later chip offset, offset < (bus.board.flash.image chip).size →
      (∀ change ∈ changes after later, change.supplied? chip offset = none) →
      ((run after later).board.flash.image chip).byte offset &&&
          (after.board.flash.image chip).byte offset =
        ((run after later).board.flash.image chip).byte offset) ∧
    (∀ address value chip, chip ≠ after.board.pins.selected →
      (after.write address value).2.board.flash.image chip = after.board.flash.image chip) ∧
    (∀ offset, (FlashWindow.read after.board offset).result =
      if offset.toNat + 4 ≤ after.board.selectedImage.size then
        .ok (after.board.selectedImage.wordAt offset.toNat)
      else refuse (.windowReadBeyond offset after.board.pins.selected)) ∧
    ∀ address, flashWindowRange.contains address = true → 4 ∣ address.toNat →
      after.faultAfter ≠ some 0 →
      let offset := address - flashWindowRange.base
      (after.read address).1 =
        if offset.toNat + 4 ≤ after.board.selectedImage.size then
          .served (after.board.selectedImage.wordAt offset.toNat)
        else
          bus.policy.onFault (.protocol (.windowReadBeyond offset after.board.pins.selected)) := by
  obtain ⟨bmcSize, pchSize, -, -, -, rfl⟩ := (build_eq_ok_iff plan environment bus).mp hbuild
  have hstandard :=
    standard_assembled plan.manifest (plan.resolvedPolicy environment) bmcSize pchSize
  intro after last
  have hafter : Standard plan.manifest after := hstandard.run operations
  have hchanged := hstandard.changed_run operations
  have hplain (register : PlainRegister) :
      after.plain? register.address = some (last register) :=
    hstandard.plain?_run (plain?_assembled _ _ _ _ register) operations
  refine ⟨hchanged.size, ?_, hafter.asked_command (hplain _) (hplain _),
    hafter.outputs_of_plain (hplain _), ?_,
    fun address value chip => image_write after address value,
    FlashWindow.result_read after.board, ?_⟩
  · intro chip offset hoffset
    exact hchanged.content (by rwa [hchanged.size])
  · intro later chip offset hoffset hnone
    have hlater := (hafter.changed_run later).byte chip offset (by rwa [hchanged.size])
    rw [hlater]
    exact Change.foldl_byteAfter_and chip offset hnone _
  · intro address hcontains halign hcountdown
    rw [← policy_run _ operations]
    exact hafter.read_window hcontains halign hcountdown

/-- The management controller's chip is loaded, then programmed through the window, and then
its second sector is erased. -/
theorem flash_content_small :
    let plan : Plan := { policy := some .error, flashSizes := some (0x2000, 16) }
    let bus := assembled {} .error 0x2000 16
    let operations : List Operation :=
      [.setOutputs 0x40, .loadFlash .bmc 4 [0xF0, 0x3C, 0x5A],
        .traffic (.write 0x04000004 0xFFFF18C0), .traffic (.write 0x151C 0x20),
        .traffic (.write 0x1524 0x1000), .traffic (.write 0x1520 1)]
    let after := run bus operations
    let later := run after [.traffic (.write 0x04000004 0)]
    plan.build none = .ok bus ∧
    changes bus operations =
      [.loaded .bmc 4 [0xF0, 0x3C, 0x5A], .programmed .bmc 4 0xFFFF18C0,
        .erased .bmc 0x1000 0x1000] ∧
    (after.board.flash.image .bmc).byte 5 = 0x3C &&& 0x18 ∧
    asked after commandRegister 1 = [.erased .bmc 0x1000 0x1000] ∧
    (later.board.flash.image .bmc).byte 5 &&& (after.board.flash.image .bmc).byte 5 =
      (later.board.flash.image .bmc).byte 5 ∧
    (after.write 0x04000004 0).2.board.flash.image .pch = after.board.flash.image .pch ∧
    (after.read 0x04002000).1 = .fault (.protocol (.windowReadBeyond 0x2000 .bmc)) := by
  intro plan bus operations after later
  have hbuild : plan.build none = .ok bus :=
    (build_eq_ok_iff plan none bus).mpr ⟨0x2000, 16, rfl, by decide, by decide, rfl⟩
  have hchanges : changes bus operations =
      [.loaded .bmc 4 [0xF0, 0x3C, 0x5A], .programmed .bmc 4 0xFFFF18C0,
        .erased .bmc 0x1000 0x1000] := by
    simp only [bus, operations]
    rfl
  -- The runs stay folded, so that no step but those of the kernel carries them out.
  have hafter : run bus operations = after := rfl
  have hlater : run after [.traffic (.write 0x04000004 0)] = later := rfl
  obtain ⟨hsize, hcontent, hasked, houtputs, hcleared, hother, -, hread⟩ :=
    flash_content hbuild operations
  rw [hafter] at hasked houtputs
  simp only [hafter] at hsize hcontent hcleared hother hread
  have hselected : after.board.pins.selected = .bmc := by
    have hroute : lastWord bus operations outputsRegister = 0x40 := by decide +kernel
    rw [Pins.selected, houtputs, hroute]
    rfl
  have hbyte := hcontent .bmc 5 (by decide)
  rw [hchanges] at hbyte
  have herase := hasked 1
  have hsetting : lastWord bus operations settingRegister = 0x20 := by decide +kernel
  have haddress : lastWord bus operations addressRegister = 0x1000 := by decide +kernel
  rw [hselected, hsetting, haddress] at herase
  have hwindow := hread 0x04002000 (by decide) (by decide) (by decide +kernel)
  rw [Board.selectedImage, hselected, hsize] at hwindow
  have hprogrammed := hcleared [.traffic (.write 0x04000004 0)] .bmc 5 (by decide)
    (by decide +kernel)
  rw [hlater] at hprogrammed
  have hunselected := hother 0x04000004 0 .pch (by rw [hselected]; decide)
  exact ⟨hbuild, hchanges, hbyte, herase, hprogrammed, hunselected, hwindow⟩

end Platform

end BoardSim
