import Mathlib.Data.List.Nodup
import BoardSim.Proofs.Bus.PlainRegisters
import BoardSim.Proofs.Platform.Reset
import BoardSim.Proofs.Platform.Safety

/-!
# BoardSim.Proofs.Platform.PlainRegisters

The plain registers of the standard board read as they were last set.

A plain register (`PlainRegister`) is given a word by an accepted write to its address, by a
reset of the board, which makes it zero, and by two handles of the host: that for the
outputs, and that for the words of the mailbox (`setBy?`).  Nothing else that is done to the
board changes it (`Standard.plain?_act`), be it a command of a device that keeps registers in
the same bank, an access that faults, or what the host does to other devices.  So it always
has the word that it was given last (`Standard.plain?_actAll`).
-/

namespace BoardSim

/-! ## what the host does to a device -/

theorem SerialMemory.settings_preload (memory : SerialMemory) (address : Nat)
    (bytes : List UInt8) : (memory.preload address bytes).settings = memory.settings := by
  induction bytes generalizing memory address with
  | nil => rfl
  | cons byte rest ih => rw [preload, ih]

theorem Mailbox.registers_pushAll (box : Mailbox) (bytes : List UInt8) :
    (bytes.foldl pushIncoming box).registers = box.registers := by
  induction bytes generalizing box with
  | nil => rfl
  | cons byte rest ih => rw [List.foldl_cons, ih, pushIncoming]

namespace Platform

theorem plain?_preloadMemory (address : Nat) (bytes : List UInt8) (device : Device)
    (board : Board) : (preloadMemory address bytes device).plain? board = device.plain? board := by
  cases device with
  | serialMemory memory =>
      funext offset
      simp only [preloadMemory, Device.plain?, SerialMemory.plain?, SerialMemory.settings_preload]
  | _ => rfl

theorem plain?_pushMailbox (bytes : List UInt8) (device : Device) (board : Board) :
    (pushMailbox bytes device).plain? board = device.plain? board := by
  cases device with
  | mailbox box =>
      funext offset
      simp only [pushMailbox, Device.plain?, Mailbox.plain?, Mailbox.registers_pushAll]
  | _ => rfl

theorem plain?_preloadMailbox_of_ne {offset other : UInt32} (hne : other ≠ offset)
    (value : UInt32) (device : Device) (board : Board) :
    (preloadMailbox offset value device).plain? board other = device.plain? board other := by
  cases device with
  | mailbox box =>
      simp only [preloadMailbox, Device.plain?, Mailbox.plain?, Mailbox.preload,
        WordBank.plain?_set_of_ne _ _ hne]
  | _ => rfl

theorem plain?_preloadMailbox_self {box : Mailbox} {offset word : UInt32}
    (h : box.plain? offset = some word) (value : UInt32) (board : Board) :
    (preloadMailbox offset value (.mailbox box)).plain? board offset = some value := by
  obtain ⟨hregister, hword⟩ := Mailbox.plain?_eq_some_iff.mp h
  exact Mailbox.plain?_eq_some_iff.mpr ⟨hregister, WordBank.plain?_set hword value⟩

/-! ## the plain registers -/

/-- The plain registers of the standard devices, by device and offset. -/
inductive IsPlain : (name : String) → (offset : UInt32) → Prop where
  /-- The output word of the pins. -/
  | outputs : IsPlain pinsName 0x00
  | watchdog : IsPlain reconfigName 0x04
  | setting (which : SerialMemory.Setting) : IsPlain serialMemoryName which.offset
  /-- All but the one that starts commands and those of the data that was read. -/
  | controller {offset : UInt32} (halign : 4 ∣ offset.toNat) (hlast : offset ≤ 0x2C)
      (hcontrol : offset ≠ 0x20) : IsPlain flashControllerName offset
  /-- All but the trigger and the two queues. -/
  | mailbox {offset : UInt32} (halign : 4 ∣ offset.toNat) (hspan : offset < 0x400)
      (htrigger : offset ≠ 0x2C) (houtgoing : offset ≠ 0x34) (hincoming : offset ≠ 0x38) :
      IsPlain mailboxName offset
  | pageMap (chip : Flash.Chip) {offset : UInt32} (halign : 4 ∣ offset.toNat)
      (hspan : offset < (pageMapRange chip).span) : IsPlain (pageMapName chip) offset

/-- A plain register at its place in the memory map. -/
structure PlainRegister where
  name : String
  range : AddressRange
  offset : UInt32
  placed : (name, range) ∈ memoryMap
  plain : IsPlain name offset

namespace PlainRegister

/-- The address of the register. -/
def address (register : PlainRegister) : UInt32 := register.range.base + register.offset

end PlainRegister

/-! ## places and names -/

variable {manifest : Manifest} {bus : Bus}

/-- A name stands at one place of the memory map. -/
theorem range_unique {name : String} {range other : AddressRange}
    (h : (name, range) ∈ memoryMap) (hother : (name, other) ∈ memoryMap) : range = other := by
  have hnames : (memoryMap.map Prod.fst).Nodup := by decide
  exact (Prod.mk.inj (List.inj_on_of_nodup_map hnames h hother rfl)).2

theorem Standard.mem_memoryMap (h : Standard manifest bus) {mount : Mount}
    (hmount : mount ∈ bus.mounts) : (mount.name, mount.range) ∈ memoryMap := by
  rw [← h.places]
  exact List.mem_map_of_mem hmount

theorem Standard.slot_unique (h : Standard manifest bus) {i j : Nat} {a b : Mount}
    (ha : bus.mounts[i]? = some a) (hb : bus.mounts[j]? = some b) (hname : a.name = b.name) :
    i = j := by
  have hnames : (bus.mounts.map Mount.name).Nodup := by
    rw [h.names]
    decide
  have hlt : i < (bus.mounts.map Mount.name).length := by
    rw [List.length_map]
    exact (List.getElem?_eq_some_iff.mp ha).1
  refine (List.getElem?_inj hlt hnames).mp ?_
  rw [List.getElem?_map, List.getElem?_map, ha, hb, Option.map_some, Option.map_some, hname]

theorem Standard.slotOf? (h : Standard manifest bus) {slot : Nat} {mount : Mount}
    (hmount : bus.mounts[slot]? = some mount) : bus.slotOf? mount.name = some slot := by
  cases hslot : bus.slotOf? mount.name with
  | none =>
      have hnone := List.findIdx?_eq_none_iff.mp hslot mount (List.mem_of_getElem? hmount)
      simp at hnone
  | some other =>
      obtain ⟨hlt, hname, -⟩ := List.findIdx?_eq_some_iff_getElem.mp hslot
      have hother : bus.mounts[other]? = some bus.mounts[other] := List.getElem?_eq_getElem hlt
      rw [h.slot_unique hother hmount (by simpa using hname)]

theorem isPins_iff {place : Mount} (h : place ∈ mounts manifest) :
    place.device = .pins ↔ place.name = pinsName := by
  apply mounts_cases h
  all_goals simp [pinsName, timersName, reconfigName, cryptoName, serialMemoryName,
    flashControllerName, mailboxName, bmcPageMapName, pchPageMapName, flashWindowName]

theorem Standard.isPins_iff (h : Standard manifest bus) {slot : Nat} {mount : Mount}
    (hmount : bus.mounts[slot]? = some mount) : mount.device = .pins ↔ mount.name = pinsName := by
  have hplace := Platform.isPins_iff (List.mem_of_getElem? (h.place_at hmount))
  have hdevice : mount.device.poweredUp = .pins ↔ mount.device = .pins := by
    cases mount.device <;> simp [Device.poweredUp, Device.reset]
  rw [← hdevice]
  exact hplace

theorem Standard.apart (h : Standard manifest bus) : bus.Apart where
  aligned mount hmount := by
    have hbases : ∀ entry ∈ memoryMap, 4 ∣ entry.2.base.toNat := by decide
    exact hbases _ (h.mem_memoryMap hmount)
  pins ha hb hpins hother := by
    refine h.slot_unique ha hb ?_
    rw [(h.isPins_iff ha).mp hpins, (h.isPins_iff hb).mp hother]

/-! ## where the plain registers are -/

theorem IsPlain.offset_lt {name : String} {range : AddressRange} {offset : UInt32}
    (h : IsPlain name offset) (hplaced : (name, range) ∈ memoryMap) :
    4 ∣ offset.toNat ∧ offset.toNat < range.span.toNat := by
  cases h with
  | outputs =>
      have hplace : (pinsName, (⟨0x1000, 0x10⟩ : AddressRange)) ∈ memoryMap := by decide
      obtain rfl := range_unique hplace hplaced
      decide
  | watchdog =>
      have hplace : (reconfigName, (⟨0x1200, 0x20⟩ : AddressRange)) ∈ memoryMap := by decide
      obtain rfl := range_unique hplace hplaced
      decide
  | setting which =>
      have hplace : (serialMemoryName, (⟨0x1400, 0x40⟩ : AddressRange)) ∈ memoryMap := by decide
      obtain rfl := range_unique hplace hplaced
      cases which <;> decide
  | controller halign hlast hcontrol =>
      have hplace : (flashControllerName, (⟨0x1500, 0x40⟩ : AddressRange)) ∈ memoryMap := by decide
      obtain rfl := range_unique hplace hplaced
      exact ⟨halign, Nat.lt_of_le_of_lt (UInt32.le_iff_toNat_le.mp hlast) (by decide)⟩
  | mailbox halign hspan =>
      have hplace : (mailboxName, (⟨0x2000, 0x400⟩ : AddressRange)) ∈ memoryMap := by decide
      obtain rfl := range_unique hplace hplaced
      exact ⟨halign, UInt32.lt_iff_toNat_lt.mp hspan⟩
  | pageMap chip halign hspan =>
      have hplace : (pageMapName chip, pageMapRange chip) ∈ memoryMap := by cases chip <;> decide
      obtain rfl := range_unique hplace hplaced
      exact ⟨halign, UInt32.lt_iff_toNat_lt.mp hspan⟩

/-- The address at an aligned offset of a standard range leads there. -/
theorem Standard.target?_at (h : Standard manifest bus) {slot : Nat} {mount : Mount}
    (hmount : bus.mounts[slot]? = some mount) {offset : UInt32} (halign : 4 ∣ offset.toNat)
    (hspan : offset.toNat < mount.range.span.toNat) :
    bus.target? (mount.range.base + offset) = some (slot, mount, offset) := by
  have hfits : ∀ entry ∈ memoryMap,
      4 ∣ entry.2.base.toNat ∧ entry.2.base.toNat + entry.2.span.toNat ≤ 2 ^ 32 := by decide
  obtain ⟨hbase, hstop⟩ : 4 ∣ mount.range.base.toNat ∧
      mount.range.base.toNat + mount.range.span.toNat ≤ 2 ^ 32 :=
    hfits _ (h.mem_memoryMap (List.mem_of_getElem? hmount))
  have haddress : (mount.range.base + offset).toNat = mount.range.base.toNat + offset.toNat := by
    rw [UInt32.toNat_add, Nat.mod_eq_of_lt (by omega)]
  have hcontains : mount.range.contains (mount.range.base + offset) = true := by
    rw [AddressRange.contains_iff, AddressRange.stop]
    omega
  have hlookup := (h.indexed.lookup_eq_some_iff _ slot).mpr ⟨mount, hmount, hcontains⟩
  refine Bus.target?_eq_some_iff.mpr ⟨?_, hlookup, hmount, ?_⟩
  · omega
  · exact Bus.eq_sub_base hcontains haddress

/-- The address of a plain register leads to its device, at its offset. -/
theorem Standard.target?_register (h : Standard manifest bus) (register : PlainRegister) :
    ∃ slot mount, bus.target? register.address = some (slot, mount, register.offset) ∧
      mount.name = register.name := by
  obtain ⟨halign, hspan⟩ := register.plain.offset_lt register.placed
  obtain ⟨slot, hslot⟩ := List.mem_iff_getElem?.mp register.placed
  rw [← h.places, List.getElem?_map] at hslot
  obtain ⟨mount, hmount, hplace⟩ := Option.map_eq_some_iff.mp hslot
  obtain ⟨hname, hrange⟩ := Prod.mk.inj hplace
  rw [PlainRegister.address, ← hrange]
  exact ⟨slot, mount, h.target?_at hmount halign (hrange ▸ hspan), hname⟩

/-- A plain register has the word that its device has at its offset. -/
theorem Standard.plain?_eq (h : Standard manifest bus) {slot : Nat} {mount : Mount}
    (hmount : bus.mounts[slot]? = some mount) {register : PlainRegister}
    (hname : mount.name = register.name) :
    bus.plain? register.address = mount.device.plain? bus.board register.offset := by
  obtain ⟨other, found, htarget, hfound⟩ := h.target?_register register
  have hother := (Bus.target?_eq_some_iff.mp htarget).2.2.1
  obtain rfl := h.slot_unique hmount hother (hname.trans hfound.symm)
  obtain rfl := Option.some.inj (hmount.symm.trans hother)
  exact Bus.plain?_of_target htarget

/-! ## zero at power-up -/

/-- The device of a name is the one that the memory map has there. -/
theorem mount_unique {slot other : Nat} {mount place : Mount}
    (hmount : (mounts manifest)[slot]? = some mount)
    (hplace : (mounts manifest)[other]? = some place) (hname : mount.name = place.name) :
    mount = place := by
  have hstandard := standard_assembled manifest .error 0 0
  obtain rfl := hstandard.slot_unique hmount hplace hname
  exact Option.some.inj (hmount.symm.trans hplace)

/-- The devices at power-up have zero in their plain registers. -/
theorem plain?_powerUp {slot : Nat} {mount : Mount} {offset : UInt32}
    (hmount : (mounts manifest)[slot]? = some mount) (hplain : IsPlain mount.name offset)
    {board : Board} (hpins : board.pins.outputs = 0) :
    mount.device.plain? board offset = some 0 := by
  obtain ⟨name, range, device⟩ := mount
  cases hplain with
  | outputs =>
      have hplace : (mounts manifest)[0]? = some ⟨pinsName, ⟨0x1000, 0x10⟩, .pins⟩ := rfl
      cases mount_unique hmount hplace rfl
      exact PinRegisters.plain?_eq_some_iff.mpr ⟨rfl, hpins⟩
  | watchdog =>
      have hplace : (mounts manifest)[2]? =
          some ⟨reconfigName, ⟨0x1200, 0x20⟩, .reconfig (.fresh manifest.busyPolls.toNat)⟩ := rfl
      cases mount_unique hmount hplace rfl
      rfl
  | setting which =>
      have hplace : (mounts manifest)[4]? =
          some ⟨serialMemoryName, ⟨0x1400, 0x40⟩, .serialMemory .fresh⟩ := rfl
      cases mount_unique hmount hplace rfl
      exact SerialMemory.plain?_eq_some_iff.mpr ⟨which, rfl, by cases which <;> rfl⟩
  | controller halign hlast hcontrol =>
      have hplace : (mounts manifest)[5]? =
          some ⟨flashControllerName, ⟨0x1500, 0x40⟩, .flashController .fresh⟩ := rfl
      cases mount_unique hmount hplace rfl
      have hdata : offset < FlashController.dataLow := UInt32.lt_of_le_of_lt hlast (by decide)
      have hlt := UInt32.le_iff_toNat_le.mp hlast
      have hindex : offset.toNat / 4 < FlashController.registerCount := by
        have hbound : (0x2C : UInt32).toNat = 44 := rfl
        rw [FlashController.registerCount]
        omega
      refine FlashController.plain?_eq_some_iff.mpr ⟨hcontrol, hdata, ?_⟩
      rw [FlashController.get?, FlashController.fresh, List.getElem?_replicate, if_pos hindex]
  | mailbox halign hspan htrigger houtgoing hincoming =>
      have hplace : (mounts manifest)[6]? =
          some ⟨mailboxName, ⟨0x2000, 0x400⟩, .mailbox .fresh⟩ := rfl
      cases mount_unique hmount hplace rfl
      have hregister : Mailbox.Register.ofOffset offset = .plain := by
        simp [Mailbox.Register.ofOffset, Mailbox.triggerOffset, htrigger, houtgoing, hincoming]
      exact Mailbox.plain?_eq_some_iff.mpr
        ⟨hregister, WordBank.plain?_eq_some_iff.mpr ⟨hspan, rfl⟩⟩
  | pageMap chip halign hspan =>
      obtain ⟨other, place, hplace, hname, hdevice⟩ : ∃ (other : Nat) (place : Mount),
          (mounts manifest)[other]? = some place ∧ pageMapName chip = place.name ∧
            place.device = .pageMap (.fresh chip (pageMapRange chip).span) := by
        cases chip with
        | bmc => exact ⟨7, _, rfl, rfl, rfl⟩
        | pch => exact ⟨8, _, rfl, rfl, rfl⟩
      cases mount_unique hmount hplace hname
      have hlt := UInt32.lt_iff_toNat_lt.mp hspan
      have hbytes : (pageMapRange chip).span.toNat = 0x800 := by cases chip <;> rfl
      have hindex : offset.toNat / 4 < (pageMapRange chip).span.toNat / 4 := by omega
      rw [hdevice]
      exact PageMap.plain?_eq_some_iff.mpr ⟨hindex, rfl⟩

theorem plain?_assembled (manifest : Manifest) (policy : FaultPolicy) (bmcSize pchSize : Nat)
    (register : PlainRegister) :
    (assembled manifest policy bmcSize pchSize).plain? register.address = some 0 := by
  obtain ⟨slot, mount, htarget, hname⟩ :=
    (standard_assembled manifest policy bmcSize pchSize).target?_register register
  have hmount := (Bus.target?_eq_some_iff.mp htarget).2.2.1
  have hplain : IsPlain mount.name register.offset := hname ▸ register.plain
  rw [Bus.plain?_of_target htarget]
  exact plain?_powerUp hmount hplain rfl

theorem Standard.plain?_reset (h : Standard manifest bus) (register : PlainRegister) :
    bus.reset.plain? register.address = some 0 := by
  have hsame : bus.reset.plain? = (assembled manifest .error 0 0).plain? := by
    refine Bus.plain?_congr h.reset.index ?_ ?_
    · rw [Bus.mounts_reset, h.placed]
      rfl
    · rw [h.board_reset]
      rfl
  rw [hsame, plain?_assembled]

/-! ## what gives a register a word -/

/-- The word that an action gives to the register, if it gives it one. -/
def setBy? (register : PlainRegister) (bus : Bus) : Action → Option UInt32
  | .operation (.traffic (.write address value)) =>
      if address = register.address ∧ (bus.write address value).1.isServed then some value else none
  | .operation (.traffic .reset) => some 0
  | .operation (.setOutputs value) => if register.name = pinsName then some value else none
  | .operation (.preloadMailbox offset value) =>
      if register.name = mailboxName ∧ offset = register.offset then some value else none
  | _ => none

@[simp] theorem setBy?_write (register : PlainRegister) (bus : Bus) (address value : UInt32) :
    setBy? register bus (.operation (.traffic (.write address value))) =
      if address = register.address ∧ (bus.write address value).1.isServed then some value
      else none := rfl

@[simp] theorem setBy?_setOutputs (register : PlainRegister) (bus : Bus) (value : UInt32) :
    setBy? register bus (.operation (.setOutputs value)) =
      if register.name = pinsName then some value else none := rfl

@[simp] theorem setBy?_preloadMailbox (register : PlainRegister) (bus : Bus)
    (offset value : UInt32) :
    setBy? register bus (.operation (.preloadMailbox offset value)) =
      if register.name = mailboxName ∧ offset = register.offset then some value else none := rfl

/-- The word that the register was given last in a sequence of actions, or else the word that
it had before. -/
def lastSet (register : PlainRegister) (word : UInt32) (bus : Bus) : List Action → UInt32
  | [] => word
  | action :: rest =>
      lastSet register ((setBy? register bus action).getD word) (act bus action) rest

/-- None of the actions gives the register a word. -/
def Spares (register : PlainRegister) (bus : Bus) : List Action → Prop
  | [] => True
  | action :: rest => setBy? register bus action = none ∧ Spares register (act bus action) rest

theorem lastSet_of_spares {register : PlainRegister} {bus : Bus} {actions : List Action}
    (h : Spares register bus actions) (word : UInt32) :
    lastSet register word bus actions = word := by
  induction actions generalizing bus with
  | nil => rfl
  | cons action rest ih =>
      obtain ⟨hnone, hrest⟩ := h
      rw [lastSet, hnone, Option.getD_none, ih hrest]

/-- A handle of the host changes the first device of its name and no other one. -/
theorem Standard.plain?_changeNamed (h : Standard manifest bus) {address offset : UInt32}
    {slot : Nat} {mount : Mount} (htarget : bus.target? address = some (slot, mount, offset))
    (name : String) (change : Device → Device) :
    (Platform.changeNamed bus name change).plain? address =
      if mount.name = name then (change mount.device).plain? bus.board offset
      else mount.device.plain? bus.board offset := by
  have hmount := (Bus.target?_eq_some_iff.mp htarget).2.2.1
  by_cases hname : mount.name = name
  · subst hname
    have hnamed : bus.deviceNamed? mount.name = some mount.device := by
      rw [Bus.deviceNamed?_eq, h.slotOf? hmount, Option.bind_some, hmount, Option.map_some]
    rw [if_pos rfl, Platform.changeNamed, hnamed]
    simp only [Bus.replaceNamed, h.slotOf? hmount]
    exact Bus.plain?_of_target (Bus.target?_update_self htarget _ _)
  · rw [if_neg hname, Platform.changeNamed]
    split
    next device hnamed =>
      rw [Bus.replaceNamed]
      split
      next other hother =>
        have hne : other ≠ slot := by
          rintro rfl
          obtain ⟨hlt, hfound, -⟩ := List.findIdx?_eq_some_iff_getElem.mp hother
          have hself : bus.mounts[other] = mount := (List.getElem?_eq_some_iff.mp hmount).2
          rw [hself] at hfound
          exact hname (by simpa using hfound)
        exact Bus.plain?_of_target (Bus.target?_update htarget hne _ _)
      next => exact Bus.plain?_of_target htarget
    next => exact Bus.plain?_of_target htarget

theorem Standard.mailbox_of_name (h : Standard manifest bus) {slot : Nat} {mount : Mount}
    (hmount : bus.mounts[slot]? = some mount) (hname : mount.name = mailboxName) :
    ∃ box, mount.device = .mailbox box := by
  have hplace : (mounts manifest)[6]? = some ⟨mailboxName, ⟨0x2000, 0x400⟩, .mailbox .fresh⟩ := rfl
  have hpowered := congrArg Mount.device (mount_unique (h.place_at hmount) hplace hname)
  cases hdevice : mount.device with
  | mailbox box => exact ⟨box, rfl⟩
  | _ =>
      rw [Mount.poweredUp, hdevice] at hpowered
      cases hpowered

section

variable {register : PlainRegister} {word : UInt32}

theorem Standard.plain?_write (h : Standard manifest bus)
    (hword : bus.plain? register.address = some word) (address value : UInt32) :
    (bus.write address value).2.plain? register.address =
      some ((setBy? register bus (.operation (.traffic (.write address value)))).getD word) := by
  have hserved : (address = register.address ∧ (bus.write address value).1.isServed = true) ↔
      (address = register.address ∧ bus.faultAfter ≠ some 0) := by
    refine and_congr_right fun heq => ?_
    rw [heq]
    exact Bus.isServed_write_of_plain hword value
  have hstep := h.apart.plain?_serve hword (.write address value)
  simp only [setBy?_write, hserved, apply_ite (Option.getD · word), Option.getD_some,
    Option.getD_none]
  exact hstep

theorem Standard.plain?_setOutputs (h : Standard manifest bus)
    (hword : bus.plain? register.address = some word) (value : UInt32) :
    (Platform.perform bus (.setOutputs value)).plain? register.address =
      some ((setBy? register bus (.operation (.setOutputs value))).getD word) := by
  obtain ⟨slot, mount, htarget, hname⟩ := h.target?_register register
  have hmount := (Bus.target?_eq_some_iff.mp htarget).2.2.1
  rw [Bus.plain?_of_target htarget] at hword
  have hafter : (Platform.perform bus (.setOutputs value)).target? register.address =
      some (slot, mount, register.offset) := htarget
  rw [Bus.plain?_of_target hafter, setBy?_setOutputs]
  by_cases hpins : register.name = pinsName
  · have hdevice := (h.isPins_iff hmount).mpr (hname.trans hpins)
    rw [hdevice] at hword ⊢
    obtain ⟨hoffset, -⟩ := PinRegisters.plain?_eq_some_iff.mp hword
    rw [if_pos hpins]
    exact PinRegisters.plain?_eq_some_iff.mpr ⟨hoffset, rfl⟩
  · have hdevice : mount.device ≠ .pins := fun heq =>
      hpins (hname.symm.trans ((h.isPins_iff hmount).mp heq))
    rw [if_neg hpins, Option.getD_none, ← hword]
    exact congrFun (Device.plain?_congr fun heq => absurd heq hdevice) register.offset

theorem Standard.plain?_preloadMailbox (h : Standard manifest bus)
    (hword : bus.plain? register.address = some word) (offset value : UInt32) :
    (Platform.perform bus (.preloadMailbox offset value)).plain? register.address =
      some ((setBy? register bus (.operation (.preloadMailbox offset value))).getD word) := by
  obtain ⟨slot, mount, htarget, hname⟩ := h.target?_register register
  have hmount := (Bus.target?_eq_some_iff.mp htarget).2.2.1
  rw [Bus.plain?_of_target htarget] at hword
  rw [Platform.perform, h.plain?_changeNamed htarget, setBy?_preloadMailbox, hname]
  by_cases hbox : register.name = mailboxName
  · rw [if_pos hbox]
    by_cases hoffset : offset = register.offset
    · obtain ⟨box, hdevice⟩ := h.mailbox_of_name hmount (hname.trans hbox)
      rw [hdevice] at hword ⊢
      rw [if_pos ⟨hbox, hoffset⟩, hoffset]
      exact plain?_preloadMailbox_self hword value bus.board
    · rw [plain?_preloadMailbox_of_ne (Ne.symm hoffset), if_neg fun hboth => hoffset hboth.2]
      exact hword
  · rw [if_neg hbox, if_neg fun hboth => hbox hboth.1]
    exact hword

/-- **Step**: an action leaves a plain register with the word that it gives it, and else with
the word that it had. -/
theorem Standard.plain?_act (h : Standard manifest bus)
    (hword : bus.plain? register.address = some word) (action : Action) :
    (Platform.act bus action).plain? register.address =
      some ((setBy? register bus action).getD word) := by
  cases action with
  | readClock | setPolicy | attach | detachAll | clearRecord => exact hword
  | operation operation =>
      cases operation with
      | traffic traffic =>
          cases traffic with
          | read address =>
              have hstep := h.apart.plain?_serve hword (.read address)
              rw [Request.left, ite_self] at hstep
              exact hstep
          | write address value => exact h.plain?_write hword address value
          | reset => exact h.plain?_reset register
          | requestFault | cancelFault => exact hword
      | setOutputs value => exact h.plain?_setOutputs hword value
      | preloadMailbox offset value => exact h.plain?_preloadMailbox hword offset value
      | setInputs | advanceClock | setClock =>
          exact (congrFun (Bus.plain?_congr rfl rfl rfl) register.address).trans hword
      | loadFlash chip offset bytes =>
          have hsame :
              (Platform.perform bus (.loadFlash chip offset bytes)).plain? = bus.plain? := by
            rw [Platform.perform]
            split
            next => exact Bus.plain?_congr rfl rfl rfl
            next => rfl
          exact (congrFun hsame register.address).trans hword
      | preloadMemory address bytes =>
          obtain ⟨slot, mount, htarget, -⟩ := h.target?_register register
          have hstep := h.plain?_changeNamed htarget serialMemoryName (preloadMemory address bytes)
          rw [plain?_preloadMemory, ite_self, ← Bus.plain?_of_target htarget, hword] at hstep
          exact hstep
      | pushMailbox bytes =>
          obtain ⟨slot, mount, htarget, -⟩ := h.target?_register register
          have hstep := h.plain?_changeNamed htarget mailboxName (pushMailbox bytes)
          rw [plain?_pushMailbox, ite_self, ← Bus.plain?_of_target htarget, hword] at hstep
          exact hstep

/-- **Run**: after any actions a plain register has the word that it was given last. -/
theorem Standard.plain?_actAll (h : Standard manifest bus)
    (hword : bus.plain? register.address = some word) (actions : List Action) :
    (Platform.actAll bus actions).plain? register.address =
      some (lastSet register word bus actions) := by
  induction actions generalizing bus word with
  | nil => exact hword
  | cons action rest ih => exact ih (h.act action) (h.plain?_act hword action)

/-- Actions that spare a plain register leave it its word. -/
theorem Standard.plain?_of_spares (h : Standard manifest bus)
    (hword : bus.plain? register.address = some word) {actions : List Action}
    (hspares : Spares register bus actions) :
    (Platform.actAll bus actions).plain? register.address = some word := by
  rw [h.plain?_actAll hword, lastSet_of_spares hspares]

end

/-- **Read after write**: on a board that was built, whatever was done to it, a write to a
plain register is accepted unless a fault is requested for it, and then a read that is
handed on is told the word that was written, whatever is done in between that spares the
register.  A read is told zero if the register was spared since the board was built or
reset. -/
theorem read_after_write {plan : Plan} {environment : Option String} {bus : Bus}
    (hbuild : plan.build environment = .ok bus) (register : PlainRegister) :
    (∀ before value, (actAll bus before).faultAfter ≠ some 0 →
      ((actAll bus before).write register.address value).1 = .served ()) ∧
    (∀ before value later,
      let written := (actAll bus before).write register.address value
      written.1 = .served () → Spares register written.2 later →
      (actAll written.2 later).faultAfter ≠ some 0 →
        ((actAll written.2 later).read register.address).1 = .served value) ∧
    (∀ later, Spares register bus later → (actAll bus later).faultAfter ≠ some 0 →
      ((actAll bus later).read register.address).1 = .served 0) ∧
    (∀ before later,
      let reset := (actAll bus before).reset
      Spares register reset later → (actAll reset later).faultAfter ≠ some 0 →
        ((actAll reset later).read register.address).1 = .served 0) := by
  obtain ⟨bmcSize, pchSize, -, -, -, rfl⟩ := (build_eq_ok_iff plan environment bus).mp hbuild
  have hstandard :=
    standard_assembled plan.manifest (plan.resolvedPolicy environment) bmcSize pchSize
  have hfresh := plain?_assembled plan.manifest (plan.resolvedPolicy environment) bmcSize pchSize
    register
  have hused := hstandard.plain?_actAll hfresh
  refine ⟨?_, ?_, ?_, ?_⟩
  · intro before value hfault
    exact Bus.write_of_plain (hused before) hfault value
  · intro before value later written hserved hspares hfault
    have hbefore := hstandard.actAll before
    have hwritten : written.2.plain? register.address = some value := by
      have hstep := hbefore.plain?_write (hused before) register.address value
      have hset : (actAll _ before).write register.address value = written := rfl
      rw [setBy?_write, hset, hserved, if_pos ⟨rfl, rfl⟩] at hstep
      exact hstep
    have hafter : Standard plan.manifest written.2 := hbefore.handle (.write register.address value)
    exact Bus.read_of_plain (hafter.plain?_of_spares hwritten hspares) hfault
  · intro later hspares hfault
    exact Bus.read_of_plain (hstandard.plain?_of_spares hfresh hspares) hfault
  · intro before later reset hspares hfault
    have hbefore := hstandard.actAll before
    exact Bus.read_of_plain
      (hbefore.reset.plain?_of_spares (hbefore.plain?_reset register) hspares) hfault

/-- The address of a flash command is kept while a chip is identified and an access faults. -/
theorem read_after_write_beside_command :
    let plan : Plan := { policy := some .error, flashSizes := some (16, 16) }
    let bus := assembled {} .error 16 16
    let register : PlainRegister :=
      ⟨flashControllerName, ⟨0x1500, 0x40⟩, 0x24, by decide,
        .controller (by decide) (by decide) (by decide)⟩
    let later : List Action :=
      [.operation (.traffic (.write 0x151C 0x9F)), .operation (.traffic (.write 0x1520 1)),
        .operation (.traffic (.write 0x1525 7))]
    let written := bus.write 0x1524 0x1234
    plan.build none = .ok bus ∧
    register.address = 0x1524 ∧
    written.1 = .served () ∧
    Spares register written.2 later ∧
    (actAll written.2 later).faultAfter ≠ some 0 ∧
    ((actAll written.2 later).read 0x1524).1 = .served 0x1234 := by
  intro plan bus register later written
  have hbuild : plan.build none = .ok bus :=
    (build_eq_ok_iff plan none bus).mpr ⟨16, 16, rfl, by decide, by decide, rfl⟩
  have hfault : (actAll written.2 later).faultAfter ≠ some 0 := by
    have hnone : (actAll written.2 later).faultAfter = none := rfl
    simp [hnone]
  have hspares : Spares register written.2 later := ⟨rfl, rfl, rfl, trivial⟩
  obtain ⟨hwrite, hread, -⟩ := read_after_write hbuild register
  have hserved : written.1 = .served () := hwrite [] 0x1234 nofun
  exact ⟨hbuild, rfl, hserved, hspares, hfault, hread [] 0x1234 later hserved hspares hfault⟩

end Platform

end BoardSim
