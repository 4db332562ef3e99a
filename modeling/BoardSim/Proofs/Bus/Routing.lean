import BoardSim.Proofs.Bus.Access
import BoardSim.Proofs.Bus.RangeIndex

/-!
# BoardSim.Proofs.Bus.Routing

Which device an access reaches.

The bus keeps its mounts in a list and finds the owner of an address in an index.
As long as devices are mounted by `mount` alone, the index holds the ranges of the
list, each under its slot (`Indexed`).  Then the ranges of the mounts are not empty
and disjoint, and an access goes one of four ways (`Routed`):

* the fault that was requested for it;
* else the fault for an address that is not a multiple of four;
* else the fault for an address in no mount's range;
* else it is handed to the one mount whose range contains the address.
-/

namespace BoardSim.Bus

/-! ## the four ways of an access -/

/-- How an access ends and what bus it leaves, in the order of the checks. -/
inductive Routed {α : Type} (bus : Bus) (request : Access)
    (use : Device → Board → (offset : UInt32) → Reply (Device × Board) α) :
    Outcome α × Bus → Prop where
  | injected (hcountdown : bus.faultAfter = some 0) :
      Routed bus request use
        (bus.policy.onFault (.injected request.address), bus.noted request)
  | unaligned (hcountdown : bus.faultAfter ≠ some 0) (halign : ¬ 4 ∣ request.address.toNat) :
      Routed bus request use
        (bus.policy.onFault (.unaligned request.address), bus.noted request)
  | unmapped (hcountdown : bus.faultAfter ≠ some 0) (halign : 4 ∣ request.address.toNat)
      (hnone : ∀ mount ∈ bus.mounts, ¬ mount.range.contains request.address = true) :
      Routed bus request use
        (bus.policy.onFault (.unmapped request.address), bus.noted request)
  /-- The device of the only mount whose range contains the address is used once, at
  the offset of the address in the range, and no other device is. -/
  | dispatched (hcountdown : bus.faultAfter ≠ some 0) (halign : 4 ∣ request.address.toNat)
      (slot : Nat) (mount : Mount) (hmount : bus.mounts[slot]? = some mount)
      (hcontains : mount.range.contains request.address = true)
      (honly : ∀ other rival, bus.mounts[other]? = some rival →
        rival.range.contains request.address = true → other = slot)
      (offset : UInt32)
      (hoffset : request.address.toNat = mount.range.base.toNat + offset.toNat)
      (hspan : offset.toNat < mount.range.span.toNat) :
      Routed bus request use
        (bus.policy.conclude (use mount.device bus.board offset).result,
          (bus.noted request).update slot (use mount.device bus.board offset).state.1
            (use mount.device bus.board offset).state.2)

/-! ## the index and the list of mounts -/

/-- The ranges of the mounts, in order. -/
def ranges (bus : Bus) : List AddressRange := bus.mounts.map Mount.range

theorem ranges_update (bus : Bus) (slot : Nat) (device : Device) (board : Board) :
    (bus.update slot device board).ranges = bus.ranges :=
  map_update bus slot device board fun _ _ => rfl

theorem ranges_reset (bus : Bus) : bus.reset.ranges = bus.ranges := by
  rw [ranges, mounts_reset, List.map_map]
  rfl

/-- The index holds the ranges of the mounts, each under its slot. -/
def Indexed (bus : Bus) : Prop := bus.index.Indexes bus.ranges

variable {bus : Bus}

theorem indexed_fresh (policy : FaultPolicy) (board : Board) : (fresh policy board).Indexed :=
  RangeIndex.indexes_nil

theorem Indexed.update (h : bus.Indexed) (slot : Nat) (device : Device) (board : Board) :
    (bus.update slot device board).Indexed := by
  rw [Indexed, ranges_update]
  exact h

theorem Indexed.reset (h : bus.Indexed) : bus.reset.Indexed := by
  rw [Indexed, ranges_reset]
  exact h

/-- What goes on at the bus leaves the index in step with the mounts. -/
theorem Indexed.handle (h : bus.Indexed) (traffic : Traffic) : (bus.handle traffic).Indexed :=
  handle_induction (fun _ _ h => h) (fun _ _ _ _ _ h => h.update ..)
    (fun _ _ _ _ _ _ h => h.update ..) (fun _ h => h.reset) (fun _ _ h => h) h traffic

/-- What a mount that is accepted does. -/
theorem mount_eq_ok {name : String} {range : AddressRange} {device : Device} {after : Bus}
    (hmount : bus.mount name range device = .ok after) :
    ∃ index, bus.index.insert range bus.mounts.length = .ok index ∧
      after = { bus with index, mounts := bus.mounts ++ [⟨name, range, device⟩] } := by
  rw [mount] at hmount
  split at hmount
  next index hinsert =>
    cases hmount
    exact ⟨index, hinsert, rfl⟩
  next => cases hmount

theorem Indexed.mount (h : bus.Indexed) {name : String} {range : AddressRange} {device : Device}
    {after : Bus} (hmount : bus.mount name range device = .ok after) : after.Indexed := by
  obtain ⟨index, hinsert, rfl⟩ := mount_eq_ok hmount
  have hlength : bus.mounts.length = bus.ranges.length := by simp [ranges]
  rw [hlength] at hinsert
  rw [Indexed, ranges, List.map_append]
  exact RangeIndex.Indexes.insert h hinsert

/-! ## the owner of an address -/

theorem getElem?_ranges (bus : Bus) (slot : Nat) :
    bus.ranges[slot]? = bus.mounts[slot]?.map Mount.range := by
  simp [ranges]

/-- A look-up finds the slot of the mount whose range contains the address. -/
theorem Indexed.lookup_eq_some_iff (h : bus.Indexed) (address : UInt32) (slot : Nat) :
    bus.index.lookup address = some slot ↔
      ∃ mount, bus.mounts[slot]? = some mount ∧ mount.range.contains address = true := by
  rw [RangeIndex.Indexes.lookup_eq_some_iff h, getElem?_ranges]
  constructor
  · rintro ⟨range, hrange, hcontains⟩
    obtain ⟨mount, hmount, rfl⟩ := Option.map_eq_some_iff.mp hrange
    exact ⟨mount, hmount, hcontains⟩
  · rintro ⟨mount, hmount, hcontains⟩
    exact ⟨mount.range, by rw [hmount, Option.map_some], hcontains⟩

theorem Indexed.lookup_eq_none_iff (h : bus.Indexed) (address : UInt32) :
    bus.index.lookup address = none ↔
      ∀ mount ∈ bus.mounts, ¬ mount.range.contains address = true := by
  rw [RangeIndex.Indexes.lookup_eq_none_iff h]
  simp [ranges]

/-- An address lies in the range of one mount at most. -/
theorem Indexed.slot_unique (h : bus.Indexed) {i j : Nat} {a b : Mount}
    (ha : bus.mounts[i]? = some a) (hb : bus.mounts[j]? = some b) {address : UInt32}
    (hcontainsa : a.range.contains address = true) (hcontainsb : b.range.contains address = true) :
    i = j := by
  have hranges (slot : Nat) (mount : Mount) (hmount : bus.mounts[slot]? = some mount) :
      bus.ranges[slot]? = some mount.range := by
    rw [getElem?_ranges, hmount, Option.map_some]
  rw [AddressRange.contains_iff_covers] at hcontainsa hcontainsb
  exact RangeIndex.Indexes.slot_unique h (hranges i a ha) (hranges j b hb) hcontainsa hcontainsb

theorem Indexed.owner?_eq_some_iff (h : bus.Indexed) (address : UInt32) (name : String) :
    bus.owner? address = some name ↔
      ∃ mount ∈ bus.mounts, mount.range.contains address = true ∧ mount.name = name := by
  rw [owner?]
  cases hlookup : bus.index.lookup address with
  | none =>
      have hnone := (h.lookup_eq_none_iff address).mp hlookup
      simp only [reduceCtorEq, false_iff]
      rintro ⟨mount, hmount, hcontains, -⟩
      exact hnone mount hmount hcontains
  | some slot =>
      obtain ⟨owner, howner, hcontains⟩ := (h.lookup_eq_some_iff address slot).mp hlookup
      simp only [howner, Option.map_some, Option.some.injEq]
      constructor
      · intro hname
        exact ⟨owner, List.mem_of_getElem? howner, hcontains, hname⟩
      · rintro ⟨mount, hmem, hother, rfl⟩
        obtain ⟨other, hmount⟩ := List.mem_iff_getElem?.mp hmem
        obtain rfl := h.slot_unique howner hmount hcontains hother
        rw [Option.some.inj (howner.symm.trans hmount)]

theorem Indexed.owner?_eq_none_iff (h : bus.Indexed) (address : UInt32) :
    bus.owner? address = none ↔
      ∀ mount ∈ bus.mounts, ¬ mount.range.contains address = true := by
  rw [← h.lookup_eq_none_iff, owner?]
  cases hlookup : bus.index.lookup address with
  | none => simp
  | some slot =>
      obtain ⟨owner, howner, -⟩ := (h.lookup_eq_some_iff address slot).mp hlookup
      simp [howner]

/-! ## one access -/

/-- The offset of an address in a range that contains it. -/
theorem toNat_sub_base {range : AddressRange} {address : UInt32}
    (hcontains : range.contains address = true) :
    address.toNat = range.base.toNat + (address - range.base).toNat ∧
      (address - range.base).toNat < range.span.toNat := by
  rw [AddressRange.contains_iff, AddressRange.stop] at hcontains
  have hsub : (address - range.base).toNat = address.toNat - range.base.toNat :=
    UInt32.toNat_sub_of_le _ _ hcontains.1
  omega

theorem eq_sub_base {range : AddressRange} {address offset : UInt32}
    (hcontains : range.contains address = true)
    (hoffset : address.toNat = range.base.toNat + offset.toNat) :
    offset = address - range.base := by
  have hsub := (toNat_sub_base hcontains).1
  exact UInt32.toNat_inj.mp (by omega)

/-- **Routing**: an access to a bus whose index is in step with its mounts goes one of
the four ways. -/
theorem Indexed.routed (h : bus.Indexed) {α : Type} (request : Access)
    (use : Device → Board → (offset : UInt32) → Reply (Device × Board) α) :
    bus.Routed request use (bus.access request use) := by
  rw [access_eq]
  split
  next hcountdown => exact .injected hcountdown
  next hcountdown =>
    rw [dispatch]
    split
    next halign => exact .unaligned hcountdown (mt Nat.mod_eq_zero_of_dvd halign)
    next halign =>
      have hdvd := Nat.dvd_of_mod_eq_zero (Decidable.not_not.mp halign)
      split
      next hlookup =>
        exact .unmapped hcountdown hdvd ((h.lookup_eq_none_iff _).mp hlookup)
      next slot hlookup =>
        obtain ⟨mount, hmount, hcontains⟩ := (h.lookup_eq_some_iff _ _).mp hlookup
        obtain ⟨hoffset, hspan⟩ := toNat_sub_base hcontains
        simp only [mounts_noted, hmount]
        refine .dispatched hcountdown hdvd slot mount hmount hcontains ?_ _ hoffset hspan
        intro other rival hrival hrivals
        exact h.slot_unique hrival hmount hrivals hcontains

/-- An access to an address in a slot's range uses the device in the slot. -/
theorem Indexed.access_at (h : bus.Indexed) {slot : Nat} {mount : Mount}
    (hmount : bus.mounts[slot]? = some mount) {request : Access}
    (hcontains : mount.range.contains request.address = true)
    (halign : 4 ∣ request.address.toNat) (hcountdown : bus.faultAfter ≠ some 0) {α : Type}
    (use : Device → Board → (offset : UInt32) → Reply (Device × Board) α) :
    bus.access request use =
      (bus.policy.conclude
          (use mount.device bus.board (request.address - mount.range.base)).result,
        (bus.noted request).update slot
          (use mount.device bus.board (request.address - mount.range.base)).state.1
          (use mount.device bus.board (request.address - mount.range.base)).state.2) := by
  have hlookup := (h.lookup_eq_some_iff request.address slot).mpr ⟨mount, hmount, hcontains⟩
  rw [access_eq, if_neg hcountdown, dispatch, if_neg (by omega)]
  simp [hlookup, hmount]

/-! ## mounting -/

/-- A mount that is not accepted is refused, and the reason is that its range has no
addresses or that it overlaps the range of the mount that is named. -/
theorem Indexed.mount_refused (h : bus.Indexed) {name : String} {range : AddressRange}
    {device : Device} {failure : Failure MountError}
    (hmount : bus.mount name range device = .error failure) :
    failure = .refused (.empty name range.base) ∧ range.span.toNat = 0 ∨
      ∃ other ∈ bus.mounts, failure = .refused (.overlapping name range other.name) ∧
        other.range.overlaps range = true := by
  rw [Bus.mount] at hmount
  split at hmount
  next => cases hmount
  next conflict hinsert =>
    obtain rfl := Except.error.inj hmount
    cases conflict with
    | empty => exact .inl ⟨rfl, (RangeIndex.insert_eq_empty_iff ..).mp hinsert⟩
    | overlaps slot =>
        obtain ⟨-, region, hregion, rfl, hoverlap, -⟩ :=
          RangeIndex.insert_eq_overlaps h.canonical hinsert
        have hrange := (h.mem_iff region.range region.slot).mp hregion
        rw [getElem?_ranges] at hrange
        obtain ⟨other, hother, hsame⟩ := Option.map_eq_some_iff.mp hrange
        refine .inr ⟨other, List.mem_of_getElem? hother, ?_, hsame ▸ hoverlap⟩
        simp [mountError, hother]

/-! ## building and using a bus -/

/-- A step of building and using a bus. -/
inductive Operation where
  | mount (name : String) (range : AddressRange) (device : Device)
  | traffic (traffic : Traffic)

/-- The bus after a step; a mount that is refused leaves it as it is. -/
def perform (bus : Bus) : Operation → Bus
  | .mount name range device =>
      match bus.mount name range device with
      | .ok after => after
      | .error _ => bus
  | .traffic traffic => bus.handle traffic

/-- The bus after a sequence of steps. -/
def run (bus : Bus) (operations : List Operation) : Bus := operations.foldl perform bus

theorem Indexed.perform (h : bus.Indexed) (operation : Operation) :
    (bus.perform operation).Indexed := by
  cases operation with
  | mount name range device =>
      rw [Bus.perform]
      split
      next after hmount => exact h.mount hmount
      next => exact h
  | traffic traffic => exact h.handle traffic

theorem Indexed.run (h : bus.Indexed) (operations : List Operation) :
    (bus.run operations).Indexed := by
  induction operations generalizing bus with
  | nil => exact h
  | cons operation rest ih => exact ih (h.perform operation)

/-- **Routing of every bus**: whatever was mounted, refused and accessed on a bus that
began empty, its ranges are not empty and disjoint, each access goes one of the four
ways, each address is owned by the one mount whose range contains it, and a refused
mount changes nothing. -/
theorem routing_of_run (policy : FaultPolicy) (board : Board) (operations : List Operation) :
    let bus := (fresh policy board).run operations
    (∀ mount ∈ bus.mounts, 0 < mount.range.span.toNat) ∧
    bus.mounts.Pairwise (fun a b => a.range.Disjoint b.range) ∧
    (∀ address, bus.Routed ⟨.read, address, 0⟩ Device.read (bus.read address)) ∧
    (∀ address value, bus.Routed ⟨.write, address, value⟩
      (fun device board offset => device.write board offset value) (bus.write address value)) ∧
    (∀ address name, bus.owner? address = some name ↔
      ∃ mount ∈ bus.mounts, mount.range.contains address = true ∧ mount.name = name) ∧
    (∀ address, bus.owner? address = none ↔
      ∀ mount ∈ bus.mounts, ¬ mount.range.contains address = true) ∧
    ∀ name range device failure, bus.mount name range device = .error failure →
      (∃ cause, failure = .refused cause) ∧ bus.perform (.mount name range device) = bus := by
  have h : ((fresh policy board).run operations).Indexed := (indexed_fresh policy board).run _
  refine ⟨?_, ?_, fun address => h.routed _ _, fun address value => h.routed _ _,
    h.owner?_eq_some_iff, h.owner?_eq_none_iff, ?_⟩
  · intro mount hmount
    exact RangeIndex.Indexes.nonempty h (List.mem_map_of_mem hmount)
  · exact List.pairwise_map.mp (RangeIndex.Indexes.pairwise h)
  · intro name range device failure hmount
    constructor
    · obtain ⟨hfailure, -⟩ | ⟨other, -, hfailure, -⟩ := h.mount_refused hmount
      · exact ⟨_, hfailure⟩
      · exact ⟨_, hfailure⟩
    · rw [Bus.perform, hmount]

end BoardSim.Bus
