import BoardSim.Proofs.Flash.Access
import BoardSim.Proofs.Platform.Standard
import Mathlib.Tactic.IntervalCases

/-!
# BoardSim.Proofs.Platform.FlashHistory

The content of the flash chips of a standard board, told from what was done to it.

Four things change a chip (`changesOf`): a reset of the bus, a load that fits, a word
that is written through the flash window, and an erase that the controller is told to
carry out, the last two if the write is served, and on the chip that the pins select
at that moment.  What each operation changes adds up to a history (`changes`), and
the chips hold what the history tells (`Standard.changed_run`).
-/

namespace BoardSim.Platform

open Flash (Chip Change Pair)

/-! ## the changes that operations make -/

/-- The address of the register that starts commands of the flash controller. -/
def commandRegister : UInt32 := 0x1520

/-- The changes that a word written to an address asks for. -/
def asked (bus : Bus) (address value : UInt32) : List Change :=
  if flashWindowRange.contains address then
    [.programmed bus.board.pins.selected (address - flashWindowRange.base).toNat value]
  else if address = commandRegister then
    match bus.deviceNamed? flashControllerName with
    | some (.flashController controller) => controller.commanded bus.board.pins.selected value
    | _ => []
  else []

/-- The changes that the traffic on the bus makes. -/
def changesOfTraffic (bus : Bus) : Traffic → List Change
  | .write address value =>
      if (bus.write address value).1.isServed then asked bus address value else []
  | .reset => [.cleared]
  | .read _ | .requestFault _ | .cancelFault => []

/-- The changes that an operation makes. -/
def changesOf (bus : Bus) : Operation → List Change
  | .traffic traffic => changesOfTraffic bus traffic
  | .loadFlash chip offset bytes =>
      match Preload.intoFlash bus.board.flash chip offset bytes with
      | .ok _ => [.loaded chip offset bytes]
      | .error _ => []
  | .setOutputs _ | .setInputs _ | .preloadMemory .. | .pushMailbox _ | .preloadMailbox ..
  | .advanceClock _ | .setClock _ => []

/-- The changes that a sequence of operations makes, in order. -/
def changes (bus : Bus) : List Operation → List Change
  | [] => []
  | operation :: rest => changesOf bus operation ++ changes (perform bus operation) rest

/-! ## the devices that reach the chips -/

variable {manifest : Manifest} {bus : Bus}

theorem Standard.window_at (h : Standard manifest bus) :
    bus.mounts[9]? = some ⟨flashWindowName, flashWindowRange, .flashWindow⟩ := by
  obtain ⟨device, hdevice, hmount⟩ := h.mount_at 9 rfl
  cases device with
  | flashWindow => exact hmount
  | _ => cases hdevice

theorem Standard.controller_at (h : Standard manifest bus) :
    ∃ controller, bus.mounts[5]? =
      some ⟨flashControllerName, ⟨0x1500, 0x40⟩, .flashController controller⟩ := by
  obtain ⟨device, hdevice, hmount⟩ := h.mount_at 5 rfl
  cases device with
  | flashController controller => exact ⟨controller, hmount⟩
  | _ => cases hdevice

/-- Only in the slot of the window stands a window. -/
theorem Standard.slot_of_window (h : Standard manifest bus) {slot : Nat} {mount : Mount}
    (hmount : bus.mounts[slot]? = some mount) (hdevice : mount.device = .flashWindow) :
    slot = 9 := by
  have hplace := h.place_at hmount
  have hslot : slot < 10 := (List.getElem?_eq_some_iff.mp hplace).1
  have hpowered : mount.poweredUp.device = .flashWindow := by
    rw [Mount.poweredUp, hdevice]
    rfl
  generalize mount.poweredUp = place at hplace hpowered
  interval_cases slot
  all_goals first | rfl | (cases hplace; cases hpowered)

/-- Only in the slot of the controller stands a controller. -/
theorem Standard.slot_of_controller (h : Standard manifest bus) {slot : Nat} {mount : Mount}
    (hmount : bus.mounts[slot]? = some mount) {controller : FlashController}
    (hdevice : mount.device = .flashController controller) : slot = 5 := by
  have hplace := h.place_at hmount
  have hslot : slot < 10 := (List.getElem?_eq_some_iff.mp hplace).1
  have hpowered : mount.poweredUp.device = .flashController .fresh := by
    rw [Mount.poweredUp, hdevice]
    rfl
  generalize mount.poweredUp = place at hplace hpowered
  interval_cases slot
  all_goals first | rfl | (cases hplace; cases hpowered)

/-! ## one operation -/

theorem asked_window {address : UInt32} (hcontains : flashWindowRange.contains address = true)
    (value : UInt32) :
    asked bus address value =
      [.programmed bus.board.pins.selected (address - flashWindowRange.base).toNat value] := by
  rw [asked, if_pos hcontains]

theorem Standard.asked_controller (h : Standard manifest bus) {controller : FlashController}
    (hmount : bus.mounts[5]? =
      some ⟨flashControllerName, ⟨0x1500, 0x40⟩, .flashController controller⟩)
    {address : UInt32} (hcontains : AddressRange.contains ⟨0x1500, 0x40⟩ address = true)
    (value : UInt32) :
    asked bus address value =
      if address - 0x1500 = FlashController.commandControl then
        controller.commanded bus.board.pins.selected value
      else [] := by
  have hnamed : bus.deviceNamed? flashControllerName = some (.flashController controller) := by
    rw [h.deviceNamed? 5 (by decide), hmount]
    rfl
  have hwindow : ¬ flashWindowRange.contains address = true := by
    rw [AddressRange.contains_iff] at hcontains ⊢
    have hbase : (0x04000000 : UInt32).toNat = 0x04000000 := rfl
    have hstop : AddressRange.stop ⟨0x1500, 0x40⟩ = 0x1540 := rfl
    simp only [flashWindowRange]
    omega
  have hcommand :
      address - 0x1500 = FlashController.commandControl ↔ address = commandRegister := by
    rw [UInt32.sub_eq_iff_eq_add]
    exact Iff.rfl
  simp only [asked, hwindow, hnamed, hcommand]
  rfl

/-- At the other devices nothing is asked of the chips. -/
theorem Standard.asked_other (h : Standard manifest bus) {slot : Nat} {mount : Mount}
    (hmount : bus.mounts[slot]? = some mount) {address : UInt32}
    (hcontains : mount.range.contains address = true) (hwindow : mount.device ≠ .flashWindow)
    (hcontroller : ∀ controller, mount.device ≠ .flashController controller) (value : UInt32) :
    asked bus address value = [] := by
  have hnotwindow : ¬ flashWindowRange.contains address = true := by
    intro hin
    obtain rfl := h.indexed.slot_unique hmount h.window_at hcontains hin
    obtain rfl := Option.some.inj (hmount.symm.trans h.window_at)
    exact hwindow rfl
  have hnotcommand : address ≠ commandRegister := by
    rintro rfl
    have hin : AddressRange.contains ⟨0x1500, 0x40⟩ commandRegister = true := by decide
    obtain ⟨controller, hat⟩ := h.controller_at
    obtain rfl := h.indexed.slot_unique hmount hat hcontains hin
    obtain rfl := Option.some.inj (hmount.symm.trans hat)
    exact hcontroller controller rfl
  rw [asked, if_neg hnotwindow, if_neg hnotcommand]

/-- A write that reaches a device changes the chips as it asks to if the device accepts
it, and else not at all. -/
theorem Standard.changed_device (h : Standard manifest bus) {slot : Nat} {mount : Mount}
    (hmount : bus.mounts[slot]? = some mount) {address : UInt32}
    (hcontains : mount.range.contains address = true) (value : UInt32) :
    let reply := mount.device.write bus.board (address - mount.range.base) value
    Pair.Changed (if reply.result.isOk then asked bus address value else []) bus.board.flash
      reply.state.2.flash := by
  intro reply
  by_cases hwindow : mount.device = .flashWindow
  · obtain rfl := h.slot_of_window hmount hwindow
    obtain rfl := Option.some.inj (hmount.symm.trans h.window_at)
    rw [asked_window hcontains]
    exact FlashWindow.changed_write bus.board _ value
  by_cases hcontroller : ∃ controller, mount.device = .flashController controller
  · obtain ⟨controller, hcontroller⟩ := hcontroller
    obtain rfl := h.slot_of_controller hmount hcontroller
    obtain ⟨controller, hat⟩ := h.controller_at
    obtain rfl := Option.some.inj (hmount.symm.trans hat)
    have hwrite := controller.changed_write bus.board (address - 0x1500) value
    rw [h.asked_controller hmount hcontains, ← ite_and]
    exact hwrite
  · have hnone : ∀ controller, mount.device ≠ .flashController controller :=
      fun controller hdevice => hcontroller ⟨controller, hdevice⟩
    have hflash : reply.state.2.flash = bus.board.flash := Device.flash_write hwindow hnone _ _ _
    rw [h.asked_other hmount hcontains hwindow hnone, ite_self, hflash]
    exact Pair.changed_nil bus.board.flash

theorem Standard.changed_write (h : Standard manifest bus) (address value : UInt32) :
    Pair.Changed (changesOfTraffic bus (.write address value)) bus.board.flash
      (bus.write address value).2.board.flash := by
  have hrouted := h.indexed.routed ⟨.write, address, value⟩
    fun device board offset => device.write board offset value
  rw [changesOfTraffic, Bus.write]
  generalize bus.access ⟨.write, address, value⟩ _ = ending at hrouted ⊢
  cases hrouted with
  | injected | unaligned | unmapped =>
      rw [FaultPolicy.isServed_onFault]
      exact Pair.changed_nil bus.board.flash
  | dispatched _ _ slot mount hmount hcontains _ offset hoffset =>
      obtain rfl := Bus.eq_sub_base hcontains hoffset
      rw [FaultPolicy.isServed_conclude, Bus.board_update]
      exact h.changed_device hmount hcontains value

/-- A load that fits replaces the bytes, and one that does not changes nothing. -/
theorem changed_loadFlash (bus : Bus) (chip : Chip) (offset : Nat) (bytes : List UInt8) :
    Pair.Changed (changesOf bus (.loadFlash chip offset bytes)) bus.board.flash
      (perform bus (.loadFlash chip offset bytes)).board.flash := by
  rw [changesOf, perform, Preload.intoFlash]
  cases hload : (bus.board.flash.image chip).load? offset bytes with
  | some image => exact Pair.changed_load hload
  | none => exact Pair.changed_nil bus.board.flash

theorem Standard.changed_reset (h : Standard manifest bus) :
    Pair.Changed [.cleared] bus.board.flash bus.reset.board.flash := by
  rw [h.board_reset]
  exact Pair.changed_reset bus.board.flash

theorem flash_changeNamed (bus : Bus) (name : String) (change : Device → Device) :
    (changeNamed bus name change).board.flash = bus.board.flash := by
  rw [changeNamed]
  split
  next =>
    rw [Bus.replaceNamed]
    split <;> rfl
  next => rfl

/-- **Step**: an operation changes the chips as it is on record. -/
theorem Standard.changed_perform (h : Standard manifest bus) (operation : Operation) :
    Pair.Changed (changesOf bus operation) bus.board.flash
      (Platform.perform bus operation).board.flash := by
  have hnil := Pair.changed_nil bus.board.flash
  cases operation with
  | traffic traffic =>
      cases traffic with
      | read address =>
          obtain hstate | ⟨slot, mount, offset, -, hstate⟩ :=
            bus.access_cases ⟨.read, address, 0⟩ Device.read
          · rw [Platform.perform, Bus.handle, Bus.read, hstate]
            exact hnil
          · rw [Platform.perform, Bus.handle, Bus.read, hstate, Bus.board_update, Device.flash_read]
            exact hnil
      | write address value => exact h.changed_write address value
      | reset => exact h.changed_reset
      | requestFault | cancelFault => exact hnil
  | loadFlash chip offset bytes => exact changed_loadFlash bus chip offset bytes
  | setOutputs | setInputs | advanceClock | setClock => exact hnil
  | preloadMemory | pushMailbox | preloadMailbox =>
      rw [Platform.perform, flash_changeNamed]
      exact hnil

/-- **Run**: a sequence of operations changes the chips as it is on record. -/
theorem Standard.changed_run (h : Standard manifest bus) (operations : List Operation) :
    Pair.Changed (changes bus operations) bus.board.flash
      (Platform.run bus operations).board.flash := by
  induction operations generalizing bus with
  | nil => exact Pair.changed_nil bus.board.flash
  | cons operation rest ih => exact (h.changed_perform operation).trans (ih (h.perform operation))

/-! ## reading and writing at any time -/

/-- A write changes at most the chip that the pins select. -/
theorem image_write (bus : Bus) (address value : UInt32) {chip : Chip}
    (hchip : chip ≠ bus.board.pins.selected) :
    (bus.write address value).2.board.flash.image chip = bus.board.flash.image chip := by
  obtain hstate | ⟨slot, mount, offset, -, hstate⟩ :=
    bus.access_cases ⟨.write, address, value⟩
      fun device board offset => device.write board offset value
  · rw [Bus.write, hstate, Bus.board_noted]
  · rw [Bus.write, hstate, Bus.board_update]
    exact mount.device.image_write hchip offset value

/-- A word is read through the window if the selected image has it. -/
theorem Standard.read_window (h : Standard manifest bus) {address : UInt32}
    (hcontains : flashWindowRange.contains address = true) (halign : 4 ∣ address.toNat)
    (hcountdown : bus.faultAfter ≠ some 0) :
    let offset := address - flashWindowRange.base
    (bus.read address).1 =
      if offset.toNat + 4 ≤ bus.board.selectedImage.size then
        .served (bus.board.selectedImage.wordAt offset.toNat)
      else
        bus.policy.onFault (.protocol (.windowReadBeyond offset bus.board.pins.selected)) := by
  intro offset
  have hread : (bus.read address).1 =
      bus.policy.conclude (FlashWindow.read bus.board offset).result := by
    rw [Bus.read, h.indexed.access_at h.window_at hcontains halign hcountdown]
    rfl
  rw [hread, FlashWindow.result_read]
  split <;> rfl

end BoardSim.Platform
