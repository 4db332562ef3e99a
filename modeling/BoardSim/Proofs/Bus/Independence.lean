import BoardSim.Proofs.Bus.Dispatch
import BoardSim.Proofs.Bus.Requests
import BoardSim.Proofs.Device.Footprint

/-!
# BoardSim.Proofs.Bus.Independence

Two accesses whose order does not matter.

What an access does beside being counted and told of is to hand it on (`hand`), and two
accesses commute if handing them on does, with each ending alike in either order
(`Commute`).  One that reaches no device commutes with every other
(`commute_of_no_target`).  Two that reach different devices commute if one of these is
private (`commute_of_private`): it finds the clock that it would have found, and the other
finds the board that it would have found.
-/

namespace BoardSim

namespace Request

/-- A private device serves a request alike on any board with the same clock. -/
theorem use_of_private (request : Request) {device : Device} (h : device.isPrivate = true)
    {board other : Board} (hclock : other.clock = board.clock) (offset : UInt32) :
    request.use device other offset =
      (request.use device board offset).mapState fun state => (state.1, other) := by
  cases request with
  | read address =>
      simp only [use, Device.read_of_private h hclock]
      rfl
  | write address value =>
      simp only [use, Device.write_of_private h hclock]
      rfl

theorem clock_use (request : Request) (device : Device) (board : Board) (offset : UInt32) :
    (request.use device board offset).state.2.clock = board.clock := by
  cases request with
  | read address => exact congrArg Board.clock (device.board_read board offset)
  | write address value => exact device.clock_write board offset value

end Request

namespace Bus

variable {bus : Bus} {x y : Request}

/-! ## targets beside a change of another device -/

/-- Changes of different devices commute, the board apart, which the later one sets. -/
theorem update_comm (bus : Bus) {i j : Nat} (hne : i ≠ j) (a b : Device)
    (first second last : Board) :
    (bus.update i a first).update j b last = (bus.update j b second).update i a last := by
  have hmounts : ((bus.update i a first).update j b last).mounts =
      ((bus.update j b second).update i a last).mounts := by
    refine List.ext_getElem? fun slot => ?_
    rw [mounts_update, mounts_update, mounts_update, mounts_update]
    by_cases hi : i = slot
    · have hj : ¬ j = slot := fun hj => hne (hi.trans hj.symm)
      simp [hi, hj]
    · simp [hi]
  exact congrArg (fun mounts => { bus with mounts, board := last }) hmounts

variable {address offset : UInt32} {slot other : Nat} {mount : Mount}

theorem target?_update (htarget : bus.target? address = some (slot, mount, offset))
    (hne : other ≠ slot) (device : Device) (board : Board) :
    (bus.update other device board).target? address = some (slot, mount, offset) := by
  obtain ⟨halign, hlookup, hmount, hoffset⟩ := target?_eq_some_iff.mp htarget
  refine target?_eq_some_iff.mpr ⟨halign, hlookup, ?_, hoffset⟩
  rw [mounts_update, if_neg hne]
  exact hmount

theorem target?_update_self (htarget : bus.target? address = some (slot, mount, offset))
    (device : Device) (board : Board) :
    (bus.update slot device board).target? address =
      some (slot, { mount with device }, offset) := by
  obtain ⟨halign, hlookup, hmount, hoffset⟩ := target?_eq_some_iff.mp htarget
  refine target?_eq_some_iff.mpr ⟨halign, hlookup, ?_, hoffset⟩
  rw [mounts_update, if_pos rfl, hmount, Option.map_some]

theorem target?_update_eq_none (htarget : bus.target? address = none) (slot : Nat)
    (device : Device) (board : Board) : (bus.update slot device board).target? address = none := by
  rw [target?] at htarget ⊢
  split
  next => rfl
  next halign =>
    rw [if_neg halign] at htarget
    rw [index_update]
    cases hlookup : bus.index.lookup address with
    | none => rfl
    | some found =>
        rw [hlookup, Option.bind_some, Option.map_eq_none_iff] at htarget
        rw [Option.bind_some, mounts_update, htarget]
        split <;> rfl

/-! ## handing a request on -/

/-- How a request ends if it is handed on, and the bus after it. -/
def hand (bus : Bus) (request : Request) : Outcome (Option UInt32) × Bus :=
  bus.dispatch request.address request.use

theorem hand_of_target (htarget : bus.target? x.address = some (slot, mount, offset)) :
    bus.hand x =
      (bus.policy.conclude (x.use mount.device bus.board offset).result,
        bus.update slot (x.use mount.device bus.board offset).state.1
          (x.use mount.device bus.board offset).state.2) := by
  rw [hand, dispatch_eq, htarget]

/-- The fault of an access that reaches no device is told by its address. -/
theorem hand_of_no_target (htarget : bus.target? x.address = none) :
    bus.hand x =
      (bus.policy.onFault
        (if x.address.toNat % 4 ≠ 0 then .unaligned x.address else .unmapped x.address), bus) := by
  rw [hand, dispatch_eq, htarget]

/-- What a request does if no fault is requested: it is handed on, counted and told of. -/
theorem serve_of_none (h : bus.faultAfter = none) (request : Request) :
    bus.serve request =
      ((bus.hand request).1,
        { (bus.hand request).2 with
          observers := bus.observers.map (Observer.note request.access)
          faultAfter := none
          accesses := bus.accesses + 1 }) := by
  have hcountdown : bus.faultAfter ≠ some 0 := by simp [h]
  have hnext : bus.countdown = none := by simp [countdown, h]
  rw [serve_eq_serveBy, serveBy, access_of_ne hcountdown, hnext, Request.address_access, hand]

theorem hand_with (bus : Bus) (observers : List Observer) (faultAfter : Option Nat)
    (accesses : Nat) (request : Request) :
    ({ bus with observers, faultAfter, accesses } : Bus).hand request =
      ((bus.hand request).1, { (bus.hand request).2 with observers, faultAfter, accesses }) :=
  bus.dispatch_with observers faultAfter accesses request.address request.use

/-! ## requests that commute -/

/-- Handed on in either order, each request ends alike and the bus is the same. -/
structure Commute (bus : Bus) (x y : Request) : Prop where
  first : ((bus.hand y).2.hand x).1 = (bus.hand x).1
  second : ((bus.hand x).2.hand y).1 = (bus.hand y).1
  after : ((bus.hand x).2.hand y).2 = ((bus.hand y).2.hand x).2

theorem Commute.symm (h : bus.Commute x y) : bus.Commute y x := ⟨h.second, h.first, h.after.symm⟩

/-- A request leads to no device after another one if it did not before. -/
theorem target?_hand_eq_none (htarget : bus.target? address = none) (request : Request) :
    (bus.hand request).2.target? address = none := by
  cases hreached : bus.target? request.address with
  | none => rwa [hand_of_no_target hreached]
  | some reached =>
      rw [hand_of_target hreached]
      exact target?_update_eq_none htarget _ _ _

theorem policy_hand (bus : Bus) (request : Request) : (bus.hand request).2.policy = bus.policy := by
  cases hreached : bus.target? request.address with
  | none => rw [hand_of_no_target hreached]
  | some reached => rw [hand_of_target hreached, policy_update]

/-- **Stray requests**: one that reaches no device commutes with every other. -/
theorem commute_of_no_target (htarget : bus.target? x.address = none) (y : Request) :
    bus.Commute x y := by
  have hthen := target?_hand_eq_none htarget y
  have hx := hand_of_no_target htarget
  have hyx := hand_of_no_target hthen
  exact ⟨by rw [hyx, hx, policy_hand], by rw [hx], by rw [hyx, hx]⟩

/-- **Private devices**: requests that reach different devices commute if the first of
these is private. -/
theorem commute_of_private {i j : Nat} {a b : Mount} {p q : UInt32}
    (hx : bus.target? x.address = some (i, a, p)) (hy : bus.target? y.address = some (j, b, q))
    (hne : i ≠ j) (hprivate : a.device.isPrivate = true) : bus.Commute x y := by
  have hclock := y.clock_use b.device bus.board q
  -- The private device leaves the board to the other one, and does not see its change.
  have hkept : (x.use a.device bus.board p).state.2 = bus.board :=
    congrArg (fun reply => reply.state.2) (x.use_of_private hprivate (Eq.refl bus.board.clock) p)
  have hfirst := hand_of_target hx
  rw [hkept] at hfirst
  have hsecond := hand_of_target hy
  have hyx := hand_of_target (target?_update hx (Ne.symm hne)
    (y.use b.device bus.board q).state.1 (y.use b.device bus.board q).state.2)
  rw [board_update, policy_update, x.use_of_private hprivate hclock] at hyx
  have hxy := hand_of_target
    (target?_update hy hne (x.use a.device bus.board p).state.1 bus.board)
  rw [board_update, policy_update] at hxy
  refine ⟨?_, ?_, ?_⟩
  · simp only [hsecond, hyx, hfirst, Reply.result_mapState]
  · simp only [hfirst, hxy, hsecond]
  · simp only [hfirst, hxy, hsecond, hyx, Reply.state_mapState]
    exact bus.update_comm hne ..

/-- **In either order**: two requests that commute, on a bus without a request for a fault,
are told alike and leave the same bus; only the observers have seen their order. -/
theorem Commute.serve (h : bus.Commute x y) (hfault : bus.faultAfter = none) :
    ((bus.serve y).2.serve x).1 = (bus.serve x).1 ∧
      ((bus.serve x).2.serve y).1 = (bus.serve y).1 ∧
      ((bus.serve x).2.serve y).2 =
        { ((bus.serve y).2.serve x).2 with
          observers := ((bus.serve x).2.serve y).2.observers } := by
  simp only [serve_of_none hfault, serve_of_none, hand_with]
  refine ⟨h.first, h.second, ?_⟩
  rw [h.after]

end Bus

end BoardSim
