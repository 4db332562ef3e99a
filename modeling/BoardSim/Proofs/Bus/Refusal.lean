import BoardSim.Proofs.Bus.Access
import BoardSim.Proofs.Device.Refusal

/-!
# BoardSim.Proofs.Bus.Refusal

An access that faults leaves the devices and the board as they were.

A fault comes from the bus itself, before any device is called, or from the device
that is called.  In the second case the device is put back on the bus with the state
that its refusal carries, and that is the state it had.
-/

namespace BoardSim

/-- An access ends in a fault that the caller is told of only if the device refuses
it. -/
theorem FaultPolicy.refuse_of_conclude {α : Type} {policy : FaultPolicy}
    {result : Except (Failure Violation) α} {cause : Fault}
    (h : policy.conclude result = .fault cause) : ∃ violation, result = refuse violation := by
  cases result with
  | ok value => cases h
  | error failure =>
      cases failure with
      | refused violation => exact ⟨violation, rfl⟩
      | broken defect => cases h

namespace Bus

variable {α : Type} {use : Device → Board → (offset : UInt32) → Reply (Device × Board) α}

theorem dispatch_fault (huse : ∀ device board offset,
    (use device board offset).Untouched (device, board)) {bus : Bus} {address : UInt32}
    {cause : Fault} (h : (bus.dispatch address use).1 = .fault cause) :
    (bus.dispatch address use).2 = bus := by
  rw [dispatch] at h ⊢
  split
  next => rfl
  next halign =>
    rw [if_neg halign] at h
    split
    next => rfl
    next slot hlookup =>
      simp only [hlookup] at h
      split
      next => rfl
      next mount hmount =>
        simp only [hmount] at h
        obtain ⟨violation, hrefused⟩ := FaultPolicy.refuse_of_conclude h
        simp only [huse _ _ _ violation hrefused]
        exact update_self bus slot hmount

/-- **Step**: if the devices are left alone by what they refuse, an access that faults
is noted and does nothing else. -/
theorem access_fault (huse : ∀ device board offset,
    (use device board offset).Untouched (device, board)) {bus : Bus} {request : Access}
    {cause : Fault} (h : (bus.access request use).1 = .fault cause) :
    (bus.access request use).2 = bus.noted request := by
  rw [access_eq] at h ⊢
  split
  next => rfl
  next hcountdown =>
    rw [if_neg hcountdown] at h
    exact dispatch_fault huse h

/-- **Faults change nothing**: a device that refuses an access keeps its state, and so
does the board; and a bus access that faults changes nothing but the observers'
records, the count of accesses and the countdown to a requested fault. -/
theorem fault_changes_nothing :
    (∀ (device : Device) board offset cause, (device.read board offset).result = refuse cause →
      (device.read board offset).state = (device, board)) ∧
    (∀ (device : Device) board offset value cause,
      (device.write board offset value).result = refuse cause →
      (device.write board offset value).state = (device, board)) ∧
    (∀ (bus : Bus) address cause, (bus.read address).1 = .fault cause →
      (bus.read address).2 = bus.noted ⟨.read, address, 0⟩) ∧
    ∀ (bus : Bus) address value cause, (bus.write address value).1 = .fault cause →
      (bus.write address value).2 = bus.noted ⟨.write, address, value⟩ := by
  refine ⟨Device.untouched_read, Device.untouched_write, ?_, ?_⟩
  · intro bus address cause h
    exact access_fault Device.untouched_read h
  · intro bus address value cause h
    exact access_fault (fun device board offset => device.untouched_write board offset value) h

/-- A block erase that does not fit into the selected chip. -/
theorem erase_outside_changes_nothing :
    let controller : FlashController := ⟨(List.replicate 14 0).set 7 0xD8, true, true, 3, 5⟩
    let bus : Bus :=
      { mounts := [⟨"spi_controller", ⟨0x1500, 0x40⟩, .flashController controller⟩]
        index := ⟨[⟨⟨0x1500, 0x40⟩, 0⟩]⟩
        policy := .error
        board := .fresh 0x1000 0x1000 }
    (bus.write 0x1520 1).1 = .fault (.protocol (.eraseOutside 0x10000 0 .pch)) ∧
    (bus.write 0x1520 1).2 = bus.noted ⟨.write, 0x1520, 1⟩ ∧
    (bus.read 0x1538).1 = .fault (.protocol (.noRegister .flashController 0x38)) ∧
    (bus.read 0x1538).2 = bus.noted ⟨.read, 0x1538, 0⟩ ∧
    (Device.write (.flashController controller) bus.board 0x20 1).state =
      (.flashController controller, bus.board) ∧
    (Device.read (.flashController controller) bus.board 0x38).state =
      (.flashController controller, bus.board) := by
  refine ⟨rfl, fault_changes_nothing.2.2.2 _ _ _ _ rfl, rfl,
    fault_changes_nothing.2.2.1 _ _ _ rfl, ?_, ?_⟩
  · exact fault_changes_nothing.2.1 _ _ _ _ (.eraseOutside 0x10000 0 .pch) rfl
  · exact fault_changes_nothing.1 _ _ _ (.noRegister .flashController 0x38) rfl

end Bus

end BoardSim
