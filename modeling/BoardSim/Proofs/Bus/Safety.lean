import BoardSim.Proofs.Bus.Access
import BoardSim.Proofs.Device.Safety

/-!
# BoardSim.Proofs.Bus.Safety

No access to a bus breaks off if its devices are sound.

A bus is sound (`Sound`) if every device that is mounted is, whatever its index
holds.  It stays so through all that goes on (`Sound.handle`), and an access then ends
in an answer or in a fault: the bus itself has a fault for an address that leads to no
mount.
-/

namespace BoardSim

/-- Is the access served, or the caller told of a fault? -/
def Outcome.isAnswered {α : Type} : Outcome α → Bool
  | .served _ | .fault _ => true
  | .ended _ | .crashed _ => false

theorem Outcome.isAnswered_of_ne {α : Type} {outcome : Outcome α}
    (hended : ∀ cause, outcome ≠ .ended cause) (hcrashed : ∀ defect, outcome ≠ .crashed defect) :
    outcome.isAnswered = true := by
  cases outcome with
  | served value => rfl
  | fault cause => rfl
  | ended cause => exact absurd rfl (hended cause)
  | crashed defect => exact absurd rfl (hcrashed defect)

theorem FaultPolicy.onFault_ne_crashed {α : Type} (policy : FaultPolicy) (cause : Fault)
    (defect : Defect) : (policy.onFault cause : Outcome α) ≠ .crashed defect := by
  cases policy <;> simp [onFault]

/-- An access that was handed to a device breaks off only if the device does. -/
theorem FaultPolicy.conclude_ne_crashed {α : Type} (policy : FaultPolicy)
    {result : Except (Failure Violation) α} {defect : Defect} (h : result ≠ breakOff defect) :
    policy.conclude result ≠ .crashed defect := by
  cases result with
  | ok value => simp [conclude]
  | error failure =>
      cases failure with
      | refused cause => exact policy.onFault_ne_crashed _ defect
      | broken other => simpa [conclude, breakOff] using h

theorem FaultPolicy.conclude_error_ne_ended {α : Type} (result : Except (Failure Violation) α)
    (cause : Fault) : error.conclude result ≠ .ended cause := by
  cases result with
  | ok value => simp [conclude]
  | error failure => cases failure <;> simp [conclude, onFault]

namespace Bus

/-! ## sound buses -/

/-- The devices of the bus are sound. -/
def Sound (bus : Bus) : Prop := ∀ mount ∈ bus.mounts, mount.device.Sound

variable {bus : Bus}

theorem sound_fresh (policy : FaultPolicy) (board : Board) : (fresh policy board).Sound :=
  fun _ hmount => nomatch hmount

theorem Sound.device (h : bus.Sound) {slot : Nat} {mount : Mount}
    (hmount : bus.mounts[slot]? = some mount) : mount.device.Sound :=
  h mount (List.mem_of_getElem? hmount)

theorem Sound.update (h : bus.Sound) (slot : Nat) {device : Device} (hdevice : device.Sound)
    (board : Board) : (bus.update slot device board).Sound := by
  intro mount hmem
  obtain ⟨other, hother⟩ := List.mem_iff_getElem?.mp hmem
  rw [mounts_update] at hother
  split at hother
  next =>
    obtain ⟨old, -, rfl⟩ := Option.map_eq_some_iff.mp hother
    exact hdevice
  next => exact h.device hother

theorem Sound.reset (h : bus.Sound) : bus.reset.Sound := by
  intro mount hmem
  rw [mounts_reset] at hmem
  obtain ⟨old, hold, rfl⟩ := List.mem_map.mp hmem
  exact (h old hold).poweredUp

/-- **Step**: all that goes on at the bus leaves it sound. -/
theorem Sound.handle (h : bus.Sound) (traffic : Traffic) : (bus.handle traffic).Sound := by
  refine handle_induction (fun _ _ h => h) ?_ ?_ (fun _ h => h.reset) (fun _ _ h => h) h traffic
  · intro bus slot mount offset hmount h
    exact h.update slot ((h.device hmount).safe_read bus.board offset).state _
  · intro bus slot mount offset value hmount h
    exact h.update slot ((h.device hmount).safe_write bus.board offset value).state _

/-! ## accesses -/

/-- If the devices do not break off, neither does an access, wherever it leads. -/
theorem Sound.access_ne_crashed (h : bus.Sound) {α : Type} {Good : Device × Board → Prop}
    {use : Device → Board → (offset : UInt32) → Reply (Device × Board) α}
    (huse : ∀ device board offset, device.Sound → (use device board offset).Safe Good)
    (request : Access) (defect : Defect) : (bus.access request use).1 ≠ .crashed defect := by
  obtain ⟨cause, hend⟩ | ⟨slot, mount, offset, hmount, hend⟩ := bus.access_ends request use
  · rw [hend]
    exact bus.policy.onFault_ne_crashed cause defect
  · rw [hend]
    exact bus.policy.conclude_ne_crashed ((huse _ _ _ (h.device hmount)).result defect)

theorem Sound.read_ne_crashed (h : bus.Sound) (address : UInt32) (defect : Defect) :
    (bus.read address).1 ≠ .crashed defect :=
  h.access_ne_crashed (fun _ board offset hdevice => hdevice.safe_read board offset) _ defect

theorem Sound.write_ne_crashed (h : bus.Sound) (address value : UInt32) (defect : Defect) :
    (bus.write address value).1 ≠ .crashed defect :=
  h.access_ne_crashed (fun _ board offset hdevice => hdevice.safe_write board offset value) _ defect

/-- Where faults are handed to the caller, no access ends the simulation. -/
theorem access_ne_ended (hpolicy : bus.policy = .error) {α : Type} (request : Access)
    (use : Device → Board → (offset : UInt32) → Reply (Device × Board) α) (cause : Fault) :
    (bus.access request use).1 ≠ .ended cause := by
  obtain ⟨other, hend⟩ | ⟨slot, mount, offset, -, hend⟩ := bus.access_ends request use
  · rw [hend, hpolicy]
    simp [FaultPolicy.onFault]
  · rw [hend, hpolicy]
    exact FaultPolicy.conclude_error_ne_ended _ cause

theorem Sound.read_isAnswered (h : bus.Sound) (hpolicy : bus.policy = .error) (address : UInt32) :
    (bus.read address).1.isAnswered = true :=
  Outcome.isAnswered_of_ne (access_ne_ended hpolicy _ _) (h.read_ne_crashed address)

theorem Sound.write_isAnswered (h : bus.Sound) (hpolicy : bus.policy = .error)
    (address value : UInt32) : (bus.write address value).1.isAnswered = true :=
  Outcome.isAnswered_of_ne (access_ne_ended hpolicy _ _) (h.write_ne_crashed address value)

end Bus

end BoardSim
