import BoardSim.Proofs.Bus.Independence
import BoardSim.Proofs.Platform.Reset

/-!
# BoardSim.Proofs.Platform.Independence

Which accesses to the standard board may change places.

The pins, the flash controller and the flash window share the pins and the chips; the
other seven devices of the board are private, whatever has become of them
(`Standard.isPrivate_of_name`).  So two accesses to different devices may change places
unless both are among these three, and an access that reaches no device may change places
with any other (`Standard.commute`).
-/

namespace BoardSim.Platform

/-- The names of the devices that sample or drive the pins or the chips. -/
def sharingNames : List String := [pinsName, flashControllerName, flashWindowName]

/-- An access to the address reaches no device: it is not aligned, or nobody owns it. -/
def Stray (bus : Bus) (address : UInt32) : Prop :=
  ¬ 4 ∣ address.toNat ∨ bus.owner? address = none

/-- The addresses lead to different devices of which not both share the pins or the chips,
or one of them leads to no device. -/
inductive Separate (bus : Bus) (x y : UInt32) : Prop where
  | strayFirst (h : Stray bus x)
  | straySecond (h : Stray bus y)
  | apart (a b : String) (ha : bus.owner? x = some a) (hb : bus.owner? y = some b) (hne : a ≠ b)
      (hsharing : ¬ (a ∈ sharingNames ∧ b ∈ sharingNames))

variable {manifest : Manifest} {bus : Bus}

/-- A standard device of another name is private. -/
theorem isPrivate_of_mem {place : Mount} (h : place ∈ mounts manifest)
    (hname : place.name ∉ sharingNames) : place.device.isPrivate = true := by
  revert hname
  apply mounts_cases h
  case pins | flashController | flashWindow => simp [sharingNames]
  all_goals exact fun _ => rfl

theorem Standard.isPrivate_of_name (h : Standard manifest bus) {slot : Nat} {mount : Mount}
    (hmount : bus.mounts[slot]? = some mount) (hname : mount.name ∉ sharingNames) :
    mount.device.isPrivate = true := by
  have hplace := isPrivate_of_mem (List.mem_of_getElem? (h.place_at hmount)) hname
  rwa [Mount.poweredUp, Device.isPrivate_poweredUp] at hplace

theorem target?_of_stray {address : UInt32} (h : Stray bus address) :
    bus.target? address = none := by
  cases htarget : bus.target? address with
  | none => rfl
  | some target =>
      obtain ⟨slot, mount, offset⟩ := target
      have halign := (Bus.target?_eq_some_iff.mp htarget).1
      obtain hunaligned | hnone := h
      · exact absurd halign hunaligned
      · rw [bus.owner?_eq_target halign, htarget] at hnone
        cases hnone

/-- An address that leads to a device leads to its owner. -/
theorem name_of_target {address offset : UInt32} {slot : Nat} {mount : Mount} {name : String}
    (htarget : bus.target? address = some (slot, mount, offset))
    (howner : bus.owner? address = some name) : mount.name = name := by
  have halign := (Bus.target?_eq_some_iff.mp htarget).1
  rw [bus.owner?_eq_target halign, htarget] at howner
  exact Option.some.inj howner

/-- **Step**: separate requests commute on a standard board. -/
theorem Standard.commute (h : Standard manifest bus) {x y : Request}
    (hseparate : Separate bus x.address y.address) : bus.Commute x y := by
  cases hseparate with
  | strayFirst hstray => exact Bus.commute_of_no_target (target?_of_stray hstray) y
  | straySecond hstray => exact (Bus.commute_of_no_target (target?_of_stray hstray) x).symm
  | apart a b ha hb hne hsharing =>
      cases hx : bus.target? x.address with
      | none => exact Bus.commute_of_no_target hx y
      | some target =>
          obtain ⟨i, first, p⟩ := target
          cases hy : bus.target? y.address with
          | none => exact (Bus.commute_of_no_target hy x).symm
          | some target =>
              obtain ⟨j, second, q⟩ := target
              obtain rfl := name_of_target hx ha
              obtain rfl := name_of_target hy hb
              have hfirst := (Bus.target?_eq_some_iff.mp hx).2.2.1
              have hsecond := (Bus.target?_eq_some_iff.mp hy).2.2.1
              have hslots : i ≠ j := by
                rintro rfl
                exact hne (congrArg Mount.name (Option.some.inj (hfirst.symm.trans hsecond)))
              by_cases hname : first.name ∈ sharingNames
              · have hother : second.name ∉ sharingNames := fun hboth => hsharing ⟨hname, hboth⟩
                exact (Bus.commute_of_private hy hx hslots.symm
                  (h.isPrivate_of_name hsecond hother)).symm
              · exact Bus.commute_of_private hx hy hslots (h.isPrivate_of_name hfirst hname)

/-- **Independence**: in every state of a board that was built, with no fault requested, two
accesses that are separate end each alike in either order, and leave the same devices, pins
and chips and the same count; only what the observers saw differs. -/
theorem order_of_separate {plan : Plan} {environment : Option String} {bus : Bus}
    (hbuild : plan.build environment = .ok bus) (actions : List Action)
    (hfault : (actAll bus actions).faultAfter = none) (x y : Request)
    (hseparate : Separate (actAll bus actions) x.address y.address) :
    let board := actAll bus actions
    let xThenY := (board.serve x).2.serve y
    let yThenX := (board.serve y).2.serve x
    yThenX.1 = (board.serve x).1 ∧
    xThenY.1 = (board.serve y).1 ∧
    xThenY.2.mounts = yThenX.2.mounts ∧
    xThenY.2.board = yThenX.2.board ∧
    xThenY.2.accesses = yThenX.2.accesses ∧
    xThenY.2 = { yThenX.2 with observers := xThenY.2.observers } := by
  obtain ⟨bmcSize, pchSize, -, -, -, rfl⟩ := (build_eq_ok_iff plan environment bus).mp hbuild
  have hstandard :=
    (standard_assembled plan.manifest (plan.resolvedPolicy environment) bmcSize pchSize).actAll
      actions
  intro board xThenY yThenX
  obtain ⟨hx, hy, hafter⟩ := (hstandard.commute hseparate).serve hfault
  have hsame : xThenY.2 = { yThenX.2 with observers := xThenY.2.observers } := hafter
  exact ⟨hx, hy, by rw [hsame], by rw [hsame], by rw [hsame], hsame⟩

/-- The firmware takes a byte of the host from the mailbox, and drives the pins. -/
theorem order_of_mailbox_and_pins :
    let bus := assembled {} .error 16 16
    let actions : List Action := [.operation (.pushMailbox [9])]
    let board := actAll bus actions
    Plan.build { policy := some .error, flashSizes := some (16, 16) } none = .ok bus ∧
    board.faultAfter = none ∧
    Separate board 0x2038 0x1000 ∧
    ((board.serve (.write 0x1000 0x40)).2.serve (.read 0x2038)).1 = .served (some 9) ∧
    ((board.serve (.read 0x2038)).2.serve (.write 0x1000 0x40)).2.board =
      ((board.serve (.write 0x1000 0x40)).2.serve (.read 0x2038)).2.board := by
  intro bus actions board
  have hbuild : Plan.build { policy := some .error, flashSizes := some (16, 16) } none = .ok bus :=
    (build_eq_ok_iff _ none bus).mpr ⟨16, 16, rfl, by decide, by decide, rfl⟩
  have hseparate : Separate board 0x2038 0x1000 :=
    .apart mailboxName pinsName rfl rfl (by decide) (by decide)
  have hserved : (board.serve (.read 0x2038)).1 = .served (some 9) := rfl
  obtain ⟨hread, -, -, hboard, -⟩ :=
    order_of_separate hbuild actions rfl (.read 0x2038) (.write 0x1000 0x40) hseparate
  exact ⟨hbuild, rfl, hseparate, hread.trans hserved, hboard⟩

end BoardSim.Platform
