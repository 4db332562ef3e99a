import BoardSim.Bus
import BoardSim.Proofs.Device.PowerUp

/-!
# BoardSim.Proofs.Bus.Access

What an access does to a bus before and after the device is called, and what a reset
does.

Before, and whatever becomes of the access, the observers are told, the access is
counted, and the countdown to a requested fault moves on (`noted`).  After, the
device that was called and the board that it shares are put back (`update`).  A
reset leaves each device as `poweredUp` tells, whatever the board is like.

`handle_induction` is the step for all that goes on at a bus: what these few things
keep is kept.
-/

namespace BoardSim

/-- What goes on at a bus whose devices are mounted. -/
inductive Traffic where
  | read (address : UInt32)
  | write (address value : UInt32)
  | reset
  | requestFault (accesses : Nat)
  | cancelFault
deriving DecidableEq

/-- Was the access served? -/
def Outcome.isServed {α : Type} : Outcome α → Bool
  | .served _ => true
  | _ => false

@[simp] theorem FaultPolicy.isServed_onFault {α : Type} (policy : FaultPolicy) (cause : Fault) :
    (policy.onFault cause : Outcome α).isServed = false := by
  cases policy <;> rfl

@[simp] theorem FaultPolicy.isServed_conclude {α : Type} (policy : FaultPolicy)
    (result : Except (Failure Violation) α) : (policy.conclude result).isServed = result.isOk := by
  cases result with
  | ok value => rfl
  | error failure =>
      cases failure with
      | refused cause => exact policy.isServed_onFault _
      | broken defect => rfl

/-- The mount as a reset leaves it. -/
def Mount.poweredUp (mount : Mount) : Mount := { mount with device := mount.device.poweredUp }

namespace Bus

/-! ## before the device -/

/-- The countdown to a requested fault, one access on. -/
def countdown (bus : Bus) : Option Nat :=
  match bus.faultAfter with
  | some (n + 1) => some n
  | _ => none

/-- The bus when an access has begun. -/
def noted (bus : Bus) (request : Access) : Bus :=
  { bus.notify request with accesses := bus.accesses + 1, faultAfter := bus.countdown }

section

variable (bus : Bus) (request : Access)

@[simp] theorem mounts_noted : (bus.noted request).mounts = bus.mounts := rfl

@[simp] theorem index_noted : (bus.noted request).index = bus.index := rfl

@[simp] theorem board_noted : (bus.noted request).board = bus.board := rfl

@[simp] theorem policy_noted : (bus.noted request).policy = bus.policy := rfl

end

/-- An access for which a fault was requested goes no further; any other one is
handed on. -/
theorem access_eq {α : Type} (bus : Bus) (request : Access)
    (use : Device → Board → (offset : UInt32) → Reply (Device × Board) α) :
    bus.access request use =
      if bus.faultAfter = some 0 then
        (bus.policy.onFault (.injected request.address), bus.noted request)
      else (bus.noted request).dispatch request.address use := by
  cases hfault : bus.faultAfter with
  | none => simp [access, noted, notify, countdown, hfault]
  | some n =>
      cases n with
      | zero => simp [access, noted, notify, countdown, hfault]
      | succ n => simp [access, noted, notify, countdown, hfault]

/-- The observers, the countdown and the count have no part in where an access is handed
and what becomes of it there. -/
theorem dispatch_with {α : Type} (bus : Bus) (observers : List Observer) (faultAfter : Option Nat)
    (accesses : Nat) (address : UInt32)
    (use : Device → Board → (offset : UInt32) → Reply (Device × Board) α) :
    ({ bus with observers, faultAfter, accesses } : Bus).dispatch address use =
      ((bus.dispatch address use).1,
        { (bus.dispatch address use).2 with observers, faultAfter, accesses }) := by
  simp only [dispatch]
  split
  next => rfl
  next =>
    split
    next => rfl
    next => split <;> rfl

/-- An access for which no fault is requested is handed on, beside what is noted of it. -/
theorem access_of_ne {α : Type} {bus : Bus} (hcountdown : bus.faultAfter ≠ some 0)
    (request : Access) (use : Device → Board → (offset : UInt32) → Reply (Device × Board) α) :
    bus.access request use =
      ((bus.dispatch request.address use).1,
        { (bus.dispatch request.address use).2 with
          observers := bus.observers.map (Observer.note request)
          faultAfter := bus.countdown
          accesses := bus.accesses + 1 }) := by
  rw [access_eq, if_neg hcountdown]
  exact bus.dispatch_with _ _ _ request.address use

/-! ## after the device -/

section

variable (bus : Bus) (slot : Nat) (device : Device) (board : Board)

@[simp] theorem index_update : (bus.update slot device board).index = bus.index := rfl

@[simp] theorem board_update : (bus.update slot device board).board = board := rfl

@[simp] theorem policy_update : (bus.update slot device board).policy = bus.policy := rfl

theorem mounts_update (other : Nat) :
    (bus.update slot device board).mounts[other]? =
      if slot = other then bus.mounts[other]?.map fun mount => { mount with device }
      else bus.mounts[other]? := by
  rw [update, List.getElem?_modify]
  split
  next heq => rfl
  next hne => exact Option.map_id'

/-- To put a device back as it was changes nothing. -/
theorem update_self {mount : Mount} (h : bus.mounts[slot]? = some mount) :
    bus.update slot mount.device bus.board = bus := by
  have hmounts : (bus.update slot mount.device bus.board).mounts = bus.mounts := by
    refine List.ext_getElem? fun other => ?_
    rw [mounts_update]
    split
    next heq => rw [← heq, h, Option.map_some]
    next hne => rfl
  exact congrArg (fun mounts => { bus with mounts }) hmounts

/-- What does not tell the new device in a slot from the old one is not changed. -/
theorem map_update {β : Type} {f : Mount → β}
    (h : ∀ mount, bus.mounts[slot]? = some mount → f { mount with device } = f mount) :
    (bus.update slot device board).mounts.map f = bus.mounts.map f := by
  refine List.ext_getElem? fun other => ?_
  rw [List.getElem?_map, List.getElem?_map, mounts_update]
  split
  next heq =>
    subst heq
    cases hmount : bus.mounts[slot]? with
    | none => rfl
    | some mount => exact congrArg some (h mount hmount)
  next hne => rfl

end

/-! ## reset -/

theorem fst_resetMounts (mounts : List Mount) (board : Board) :
    (resetMounts mounts board).1 = mounts.map Mount.poweredUp := by
  induction mounts generalizing board with
  | nil => rfl
  | cons mount rest ih =>
      have hmount : { mount with device := (mount.device.reset board).1 } = mount.poweredUp := by
        rw [Device.fst_reset]
        rfl
      have hrest := ih (mount.device.reset board).2
      rw [List.map_cons, ← hmount, ← hrest]
      rfl

/-- The board that a reset leaves does not depend on what became of the devices. -/
theorem snd_resetMounts (mounts : List Mount) (board : Board) :
    (resetMounts mounts board).2 = (resetMounts (mounts.map Mount.poweredUp) board).2 := by
  induction mounts generalizing board with
  | nil => rfl
  | cons mount rest ih =>
      rw [resetMounts, List.map_cons, resetMounts, ih]
      exact congrArg (fun board => (resetMounts (rest.map Mount.poweredUp) board).2)
        (Device.snd_reset mount.device board)

theorem mounts_reset (bus : Bus) : bus.reset.mounts = bus.mounts.map Mount.poweredUp :=
  fst_resetMounts bus.mounts bus.board

@[simp] theorem index_reset (bus : Bus) : bus.reset.index = bus.index := rfl

/-! ## what goes on at a bus -/

/-- An access faults once it has begun, or uses the device in one slot, puts it back and
ends as the device has it end. -/
theorem access_ends {α : Type} (bus : Bus) (request : Access)
    (use : Device → Board → (offset : UInt32) → Reply (Device × Board) α) :
    (∃ cause, bus.access request use = (bus.policy.onFault cause, bus.noted request)) ∨
      ∃ slot mount offset, bus.mounts[slot]? = some mount ∧
        bus.access request use =
          (bus.policy.conclude (use mount.device bus.board offset).result,
            (bus.noted request).update slot (use mount.device bus.board offset).state.1
              (use mount.device bus.board offset).state.2) := by
  rw [access_eq]
  split
  next => exact .inl ⟨_, rfl⟩
  next =>
    rw [dispatch]
    split
    next => exact .inl ⟨_, rfl⟩
    next =>
      split
      next => exact .inl ⟨_, rfl⟩
      next slot _ =>
        split
        next => exact .inl ⟨_, rfl⟩
        next mount hmount => exact .inr ⟨slot, mount, _, hmount, rfl⟩

/-- Once an access has begun it leaves the bus alone, or uses the device in one slot
and puts it back. -/
theorem access_cases {α : Type} (bus : Bus) (request : Access)
    (use : Device → Board → (offset : UInt32) → Reply (Device × Board) α) :
    (bus.access request use).2 = bus.noted request ∨
      ∃ slot mount offset, bus.mounts[slot]? = some mount ∧
        (bus.access request use).2 = (bus.noted request).update slot
          (use mount.device bus.board offset).state.1
          (use mount.device bus.board offset).state.2 := by
  obtain ⟨cause, hend⟩ | ⟨slot, mount, offset, hmount, hend⟩ := bus.access_ends request use
  · exact .inl (congrArg Prod.snd hend)
  · exact .inr ⟨slot, mount, offset, hmount, congrArg Prod.snd hend⟩

/-- The bus after it has served an access, was reset, or was asked for a fault. -/
def handle (bus : Bus) : Traffic → Bus
  | .read address => (bus.read address).2
  | .write address value => (bus.write address value).2
  | .reset => bus.reset
  | .requestFault accesses => bus.requestFault accesses
  | .cancelFault => bus.cancelFault

/-- **Step**: what is kept when an access begins, when a device that was read or
written is put back, on a reset, and when a fault is requested or taken back, is
kept by all that goes on. -/
theorem handle_induction {Kept : Bus → Prop}
    (hnoted : ∀ bus request, Kept bus → Kept (bus.noted request))
    (hread : ∀ bus slot mount offset, bus.mounts[slot]? = some mount → Kept bus →
      Kept (bus.update slot (mount.device.read bus.board offset).state.1
        (mount.device.read bus.board offset).state.2))
    (hwrite : ∀ bus slot mount offset value, bus.mounts[slot]? = some mount → Kept bus →
      Kept (bus.update slot (mount.device.write bus.board offset value).state.1
        (mount.device.write bus.board offset value).state.2))
    (hreset : ∀ bus, Kept bus → Kept bus.reset)
    (hfault : ∀ bus faultAfter, Kept bus → Kept { bus with faultAfter }) {bus : Bus}
    (h : Kept bus) (traffic : Traffic) : Kept (bus.handle traffic) := by
  cases traffic with
  | read address =>
      have hbegun := hnoted bus ⟨.read, address, 0⟩ h
      obtain hstate | ⟨slot, mount, offset, hmount, hstate⟩ :=
        access_cases bus ⟨.read, address, 0⟩ Device.read
      · rw [handle, read, hstate]
        exact hbegun
      · rw [handle, read, hstate]
        exact hread _ slot mount offset hmount hbegun
  | write address value =>
      have hbegun := hnoted bus ⟨.write, address, value⟩ h
      obtain hstate | ⟨slot, mount, offset, hmount, hstate⟩ :=
        access_cases bus ⟨.write, address, value⟩
          fun device board offset => device.write board offset value
      · rw [handle, write, hstate]
        exact hbegun
      · rw [handle, write, hstate]
        exact hwrite _ slot mount offset value hmount hbegun
  | reset => exact hreset bus h
  | requestFault accesses => exact hfault bus _ h
  | cancelFault => exact hfault bus _ h

/-! ## devices by name -/

theorem deviceNamed?_eq (bus : Bus) (name : String) :
    bus.deviceNamed? name =
      (bus.slotOf? name).bind fun slot => bus.mounts[slot]?.map Mount.device := by
  rw [deviceNamed?, slotOf?, List.find?_eq_bind_findIdx?_getElem?, Option.map_bind]
  rfl

/-- Where a device stands depends on the names alone. -/
theorem slotOf?_eq (bus : Bus) (name : String) :
    bus.slotOf? name = (bus.mounts.map Mount.name).findIdx? (· = name) := by
  rw [slotOf?, List.findIdx?_map]
  rfl

end Bus

end BoardSim
