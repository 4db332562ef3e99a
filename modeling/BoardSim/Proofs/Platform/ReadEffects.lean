import BoardSim.Proofs.Device.ReadEffects
import BoardSim.Proofs.Platform.PlainRegisters

/-!
# BoardSim.Proofs.Platform.ReadEffects

What reads of the standard board change, and the writes that change nothing.

An access is always told of, counted, and noted by the countdown to a requested fault
(`Bus.noted`).  Beside that a read leaves the pins, the chips, the clock and all devices but
the one that it is handed to, and that one too, except in the five cases of
`Device.ReadChanges`.  A write to a register that can only be read does no more than be noted.
-/

namespace BoardSim

/-! ## accesses of a bus -/

namespace Bus

variable {bus : Bus} {address offset : UInt32} {slot : Nat} {mount : Mount}

/-- A read that is handed on changes its device as it is said to, and nothing else. -/
theorem read_of_changes (h : bus.Sound) (htarget : bus.target? address = some (slot, mount, offset))
    (hcountdown : bus.faultAfter ≠ some 0) {device : Device}
    (hchanges : Device.ReadChanges bus.board offset mount.device device) :
    device ≠ mount.device ∧
      (bus.read address).2 = (bus.noted ⟨.read, address, 0⟩).update slot device bus.board := by
  have hdevice := h.device (target?_eq_some_iff.mp htarget).2.2.1
  obtain ⟨hstate, hne⟩ := (Device.readChanges_iff hdevice).mp hchanges
  have htold : bus.target? (Access.mk .read address 0).address = some (slot, mount, offset) :=
    htarget
  rw [read, access_of_target htold hcountdown, hstate]
  exact ⟨hne, rfl⟩

/-- A read that is handed on and is not said to change its device changes nothing. -/
theorem read_of_quiet (h : bus.Sound) (htarget : bus.target? address = some (slot, mount, offset))
    (hcountdown : bus.faultAfter ≠ some 0)
    (hquiet : ∀ device, ¬Device.ReadChanges bus.board offset mount.device device) :
    (bus.read address).2 = bus.noted ⟨.read, address, 0⟩ := by
  have hmount := (target?_eq_some_iff.mp htarget).2.2.1
  have hsame : (mount.device.read bus.board offset).state.1 = mount.device :=
    Decidable.byContradiction fun hne =>
      hquiet _ (Device.readChanges_of_ne (h.device hmount) hne)
  have htold : bus.target? (Access.mk .read address 0).address = some (slot, mount, offset) :=
    htarget
  have hnoted : (bus.noted ⟨.read, address, 0⟩).mounts[slot]? = some mount := hmount
  rw [read, access_of_target htold hcountdown, hsame, Device.board_read]
  exact update_self _ slot hnoted

/-- An access that is not handed on changes nothing. -/
theorem access_of_not_handed {α : Type} {request : Access}
    (h : bus.target? request.address = none ∨ bus.faultAfter = some 0)
    (use : Device → Board → (offset : UInt32) → Reply (Device × Board) α) :
    (bus.access request use).2 = bus.noted request := by
  obtain htarget | hcountdown := h
  · obtain ⟨cause, hend⟩ := access_of_no_target htarget use
    rw [hend]
  · rw [access_eq, if_pos hcountdown]

/-- A write to a register that can only be read changes nothing, and is served if it is
handed on. -/
theorem write_of_readOnly (htarget : bus.target? address = some (slot, mount, offset))
    (hoffset : offset ∈ mount.device.readOnlyOffsets) (value : UInt32) :
    (bus.faultAfter ≠ some 0 → (bus.write address value).1 = .served ()) ∧
      (bus.write address value).2 = bus.noted ⟨.write, address, value⟩ := by
  have htold : bus.target? (Access.mk .write address value).address = some (slot, mount, offset) :=
    htarget
  by_cases hcountdown : bus.faultAfter = some 0
  · exact ⟨absurd hcountdown, access_of_not_handed (.inr hcountdown) _⟩
  · have hnoted : (bus.noted ⟨.write, address, value⟩).mounts[slot]? = some mount :=
      (target?_eq_some_iff.mp htarget).2.2.1
    rw [write, access_of_target htold hcountdown, Device.write_of_readOnly hoffset]
    exact ⟨fun _ => rfl, update_self _ slot hnoted⟩

end Bus

namespace Platform

/-! ## what holds in every state of the board -/

variable {manifest : Manifest} {bus : Bus}

theorem sound_act (h : bus.Sound) (action : Action) : (act bus action).Sound := by
  cases action with
  | operation operation => exact sound_perform h operation
  | readClock | setPolicy | attach | detachAll | clearRecord => exact h

theorem sound_actAll (h : bus.Sound) (actions : List Action) : (actAll bus actions).Sound := by
  induction actions generalizing bus with
  | nil => exact h
  | cons action rest ih => exact ih (sound_act h action)

/-- The mount that an access is handed to is found in the memory map and under its name. -/
theorem Standard.of_target (h : Standard manifest bus) {address offset : UInt32} {slot : Nat}
    {mount : Mount} (htarget : bus.target? address = some (slot, mount, offset)) :
    (mount.name, mount.range) ∈ memoryMap ∧ address = mount.range.base + offset ∧
      bus.deviceNamed? mount.name = some mount.device := by
  obtain ⟨-, -, hmount, rfl⟩ := Bus.target?_eq_some_iff.mp htarget
  refine ⟨h.mem_memoryMap (List.mem_of_getElem? hmount), ?_, ?_⟩
  · rw [UInt32.add_comm, UInt32.sub_add_cancel]
  · rw [Bus.deviceNamed?_eq, h.slotOf? hmount, Option.bind_some, hmount, Option.map_some]

theorem readOnlyOffsets_lt {place : Mount} (hplace : place ∈ mounts manifest) {offset : UInt32}
    (hoffset : offset ∈ place.device.readOnlyOffsets) :
    4 ∣ offset.toNat ∧ offset.toNat < place.range.span.toNat := by
  revert hoffset
  apply mounts_cases hplace
  case pins | mailbox =>
    intro hoffset
    obtain rfl := List.mem_singleton.mp hoffset
    decide
  case flashController =>
    simp only [Device.readOnlyOffsets, List.mem_cons, List.not_mem_nil, or_false]
    rintro (rfl | rfl) <;> decide
  case reconfig | serialMemory =>
    simp only [Device.readOnlyOffsets, List.mem_cons, List.not_mem_nil, or_false]
    rintro (rfl | rfl | rfl) <;> decide
  all_goals exact fun hoffset => absurd hoffset List.not_mem_nil

/-- The address of a register that can only be read leads to it. -/
theorem Standard.target?_readOnly (h : Standard manifest bus) {place : Mount}
    (hplace : place ∈ mounts manifest) {offset : UInt32}
    (hoffset : offset ∈ place.device.readOnlyOffsets) :
    ∃ slot mount, bus.target? (place.range.base + offset) = some (slot, mount, offset) ∧
      offset ∈ mount.device.readOnlyOffsets := by
  obtain ⟨slot, hslot⟩ := List.mem_iff_getElem?.mp hplace
  obtain ⟨device, hdevice, hmount⟩ := h.mount_at slot hslot
  obtain ⟨halign, hspan⟩ := readOnlyOffsets_lt hplace hoffset
  refine ⟨slot, _, h.target?_at hmount halign hspan, ?_⟩
  rw [← Device.readOnlyOffsets_poweredUp, hdevice]
  exact hoffset

/-! ## the effects of accesses -/

/-- **Effects of reads**: on a board that was built, whatever was done to it, a read that is
handed on goes to a device of the memory map.  In the five cases it changes this device as
they say, and in all others it changes nothing; the pins, the chips, the clock and the other
devices stay in any case.  A read that is not handed on changes nothing.

A write to a register that can only be read is served, unless a fault is requested for it,
and changes nothing either.  Each access is told of and counted. -/
theorem effects_of_access {plan : Plan} {environment : Option String} {bus : Bus}
    (hbuild : plan.build environment = .ok bus) (before : List Action) :
    let used := actAll bus before
    (∀ address slot mount offset, used.target? address = some (slot, mount, offset) →
      let after := (used.read address).2
      let noted := used.noted ⟨.read, address, 0⟩
      (mount.name, mount.range) ∈ memoryMap ∧
      address = mount.range.base + offset ∧
      used.deviceNamed? mount.name = some mount.device ∧
      (used.faultAfter ≠ some 0 →
        (∀ device, Device.ReadChanges used.board offset mount.device device →
          device ≠ mount.device ∧ after = noted.update slot device used.board) ∧
        ((∀ device, ¬Device.ReadChanges used.board offset mount.device device) →
          after = noted))) ∧
    (∀ address, used.target? address = none ∨ used.faultAfter = some 0 →
      (used.read address).2 = used.noted ⟨.read, address, 0⟩) ∧
    ∀ place ∈ mounts plan.manifest, ∀ offset ∈ place.device.readOnlyOffsets, ∀ value,
      let address := place.range.base + offset
      (used.faultAfter ≠ some 0 → (used.write address value).1 = .served ()) ∧
        (used.write address value).2 = used.noted ⟨.write, address, value⟩ := by
  obtain ⟨bmcSize, pchSize, -, -, -, rfl⟩ := (build_eq_ok_iff plan environment bus).mp hbuild
  intro used
  have hstandard : Standard plan.manifest used := (standard_assembled _ _ bmcSize pchSize).actAll _
  have hsound : used.Sound := sound_actAll (sound_assembled _ _ bmcSize pchSize) before
  refine ⟨?_, fun address hrefused => Bus.access_of_not_handed hrefused _, ?_⟩
  · intro address slot mount offset htarget after noted
    obtain ⟨hplaced, haddress, hnamed⟩ := hstandard.of_target htarget
    refine ⟨hplaced, haddress, hnamed, fun hcountdown => ⟨?_, ?_⟩⟩
    · intro device hchanges
      exact Bus.read_of_changes hsound htarget hcountdown hchanges
    · intro hquiet
      exact Bus.read_of_quiet hsound htarget hcountdown hquiet
  · intro place hplace offset hoffset value address
    obtain ⟨slot, mount, htarget, hreadOnly⟩ := hstandard.target?_readOnly hplace hoffset
    exact Bus.write_of_readOnly htarget hreadOnly value

/-- With two bytes of the host in the mailbox, a read of the queue takes the first of them, and
a write to the queue is ignored. -/
theorem effects_of_access_mailbox :
    let plan : Plan := { policy := some .error, flashSizes := some (16, 16) }
    let bus := assembled {} .error 16 16
    let used := actAll bus [.operation (.pushMailbox [7, 8])]
    let box : Mailbox := { Mailbox.fresh with incoming := [7, 8] }
    plan.build none = .ok bus ∧
    used.target? 0x2038 =
      some (6, ⟨mailboxName, ⟨0x2000, 0x400⟩, .mailbox box⟩, 0x38) ∧
    used.faultAfter ≠ some 0 ∧
    (used.read 0x2038).2 =
      (used.noted ⟨.read, 0x2038, 0⟩).update 6 (.mailbox { box with incoming := [8] })
        used.board ∧
    (used.write 0x2038 9).2 = used.noted ⟨.write, 0x2038, 9⟩ := by
  intro plan bus used box
  have hbuild : plan.build none = .ok bus :=
    (build_eq_ok_iff plan none bus).mpr ⟨16, 16, rfl, by decide, by decide, rfl⟩
  have htarget : used.target? 0x2038 =
      some (6, ⟨mailboxName, ⟨0x2000, 0x400⟩, .mailbox box⟩, 0x38) := by
    decide +kernel
  have hcountdown : used.faultAfter ≠ some 0 := nofun
  obtain ⟨hreads, -, hwrites⟩ := effects_of_access hbuild [.operation (.pushMailbox [7, 8])]
  obtain ⟨-, -, -, heffect⟩ := hreads 0x2038 6 _ 0x38 htarget
  have hplace : (⟨mailboxName, ⟨0x2000, 0x400⟩, .mailbox .fresh⟩ : Mount) ∈ mounts {} := by
    decide +kernel
  have hwrite := hwrites _ hplace 0x38 (by decide) 9
  exact ⟨hbuild, htarget, hcountdown, ((heffect hcountdown).1 _ (.take (by decide))).2, hwrite.2⟩

end Platform

end BoardSim
