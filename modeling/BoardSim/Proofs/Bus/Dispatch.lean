import BoardSim.Proofs.Bus.Routing
import BoardSim.Proofs.Bus.Safety

/-!
# BoardSim.Proofs.Bus.Dispatch

Where an access is handed when the index and the list of mounts can differ, and at
which offset.

The host can edit the list of mounts without the index (`HostStep`).  An access then
goes to the slot that the index names for its address, whatever range the mount in
that slot has by now (`target?`).  So it reaches no mount but those whose range
contains the address exactly if each indexed range lies in the current range of its
mount, as far as multiples of four go (`inside_iff`).  That is so after a refresh that
is accepted and after mounts are appended, and need not be so after a mount is moved or
removed.

The bus checks the address and not the offset.  The offset is a multiple of four
exactly if the base of the mount is one (`dvd_offset_iff`), which no mount is held to.
-/

namespace BoardSim.Bus

/-! ## where an access is handed -/

/-- The slot, the mount and the offset that an access to the address is handed to, if no
fault is requested for it. -/
def target? (bus : Bus) (address : UInt32) : Option (Nat × Mount × UInt32) :=
  if address.toNat % 4 ≠ 0 then none
  else
    (bus.index.lookup address).bind fun slot =>
      bus.mounts[slot]?.map fun mount => (slot, mount, address - mount.range.base)

variable {bus : Bus} {address offset : UInt32} {slot : Nat} {mount : Mount}

theorem target?_eq_some_iff :
    bus.target? address = some (slot, mount, offset) ↔
      4 ∣ address.toNat ∧ bus.index.lookup address = some slot ∧
        bus.mounts[slot]? = some mount ∧ offset = address - mount.range.base := by
  rw [target?]
  split
  next halign => simp [Nat.dvd_iff_mod_eq_zero, halign]
  next halign =>
    have hdvd := Nat.dvd_of_mod_eq_zero (Decidable.not_not.mp halign)
    simp only [Option.bind_eq_some_iff, Option.map_eq_some_iff, Prod.mk.injEq]
    constructor
    · rintro ⟨other, hlookup, rival, hmount, rfl, rfl, rfl⟩
      exact ⟨hdvd, hlookup, hmount, rfl⟩
    · rintro ⟨-, hlookup, hmount, rfl⟩
      exact ⟨slot, hlookup, mount, hmount, rfl, rfl, rfl⟩

/-- **Dispatch**: the device in the target is used at the offset of the target, and
without a target no device is used. -/
theorem dispatch_eq {α : Type} (bus : Bus) (address : UInt32)
    (use : Device → Board → (offset : UInt32) → Reply (Device × Board) α) :
    bus.dispatch address use =
      match bus.target? address with
      | some (slot, mount, offset) =>
          (bus.policy.conclude (use mount.device bus.board offset).result,
            bus.update slot (use mount.device bus.board offset).state.1
              (use mount.device bus.board offset).state.2)
      | none =>
          (bus.policy.onFault
            (if address.toNat % 4 ≠ 0 then .unaligned address else .unmapped address), bus) := by
  rw [dispatch, target?]
  split
  next => rfl
  next =>
    cases bus.index.lookup address with
    | none => rfl
    | some slot => cases hmount : bus.mounts[slot]? <;> simp [hmount]

theorem access_of_target {α : Type} {request : Access}
    (htarget : bus.target? request.address = some (slot, mount, offset))
    (hcountdown : bus.faultAfter ≠ some 0)
    (use : Device → Board → (offset : UInt32) → Reply (Device × Board) α) :
    bus.access request use =
      (bus.policy.conclude (use mount.device bus.board offset).result,
        (bus.noted request).update slot (use mount.device bus.board offset).state.1
          (use mount.device bus.board offset).state.2) := by
  have hnoted : (bus.noted request).target? request.address = some (slot, mount, offset) := htarget
  rw [access_eq, if_neg hcountdown, dispatch_eq, hnoted]
  rfl

theorem access_of_no_target {α : Type} {request : Access}
    (htarget : bus.target? request.address = none)
    (use : Device → Board → (offset : UInt32) → Reply (Device × Board) α) :
    ∃ cause, bus.access request use = (bus.policy.onFault cause, bus.noted request) := by
  have hnoted : (bus.noted request).target? request.address = none := htarget
  rw [access_eq, dispatch_eq, hnoted]
  split
  next => exact ⟨_, rfl⟩
  next => exact ⟨_, rfl⟩

/-- The owner of an aligned address is the mount that an access to it is handed to. -/
theorem owner?_eq_target (bus : Bus) {address : UInt32} (halign : 4 ∣ address.toNat) :
    bus.owner? address = (bus.target? address).map fun target => target.2.1.name := by
  have haligned : ¬ address.toNat % 4 ≠ 0 := by omega
  rw [owner?, target?, if_neg haligned]
  cases bus.index.lookup address with
  | none => rfl
  | some slot => simp [Function.comp_def]

/-! ## targets and current ranges -/

/-- Accesses are handed to no mount but those whose range contains the address, and at
its offset in the range. -/
def Inside (bus : Bus) : Prop :=
  ∀ address slot mount offset, bus.target? address = some (slot, mount, offset) →
    address.toNat = mount.range.base.toNat + offset.toNat ∧
      offset.toNat < mount.range.span.toNat

/-- The offset of a target lies in the range of the mount exactly if the address does. -/
theorem contains_iff_offset (htarget : bus.target? address = some (slot, mount, offset)) :
    mount.range.contains address = true ↔
      address.toNat = mount.range.base.toNat + offset.toNat ∧
        offset.toNat < mount.range.span.toNat := by
  obtain ⟨-, -, -, rfl⟩ := target?_eq_some_iff.mp htarget
  constructor
  · exact toNat_sub_base
  · rintro ⟨hoffset, hspan⟩
    rw [AddressRange.contains_iff, AddressRange.stop]
    omega

/-- **Stale ranges**: what is needed for accesses to stay inside the current ranges. -/
theorem inside_iff (h : bus.index.Canonical) :
    bus.Inside ↔
      ∀ region ∈ bus.index.regions, ∀ mount, bus.mounts[region.slot]? = some mount →
        ∀ address : UInt32, 4 ∣ address.toNat → region.range.contains address = true →
          mount.range.contains address = true := by
  constructor
  · intro hinside region hregion mount hmount address halign hcontains
    have hlookup := (RangeIndex.lookup_eq_some_iff h address region.slot).mpr
      ⟨region, hregion, hcontains, rfl⟩
    have htarget : bus.target? address =
        some (region.slot, mount, address - mount.range.base) :=
      target?_eq_some_iff.mpr ⟨halign, hlookup, hmount, rfl⟩
    exact (contains_iff_offset htarget).mpr (hinside _ _ _ _ htarget)
  · intro hregions address slot mount offset htarget
    obtain ⟨halign, hlookup, hmount, -⟩ := target?_eq_some_iff.mp htarget
    obtain ⟨region, hregion, hcontains, rfl⟩ :=
      (RangeIndex.lookup_eq_some_iff h address slot).mp hlookup
    exact (contains_iff_offset htarget).mp
      (hregions region hregion mount hmount address halign hcontains)

theorem foldl_appendMount (bus : Bus) (more : List Mount) :
    more.foldl appendMount bus = { bus with mounts := bus.mounts ++ more } := by
  induction more generalizing bus with
  | nil => simp
  | cons mount rest ih =>
      rw [List.foldl_cons, ih]
      simp [appendMount]

/-- Accesses stay inside where the index is in step with the mounts, and mounts that
are appended then do not change that. -/
theorem Indexed.inside_append (h : bus.Indexed) (more : List Mount) :
    (more.foldl appendMount bus).Inside := by
  have hcanonical : (more.foldl appendMount bus).index.Canonical := by
    rw [foldl_appendMount]
    exact h.canonical
  rw [inside_iff hcanonical, foldl_appendMount]
  intro region hregion mount hmount address halign hcontains
  have hrange := (h.mem_iff region.range region.slot).mp hregion
  rw [getElem?_ranges] at hrange
  obtain ⟨owner, howner, hsame⟩ := Option.map_eq_some_iff.mp hrange
  have hlt := (List.getElem?_eq_some_iff.mp howner).1
  rw [List.getElem?_append_left hlt, howner] at hmount
  obtain rfl := Option.some.inj hmount
  rw [hsame]
  exact hcontains

theorem Indexed.inside (h : bus.Indexed) : bus.Inside := h.inside_append []

/-! ## refreshing the index -/

/-- The mounts that are indexed without a conflict follow those that were. -/
theorem indexes_indexFrom {index after : RangeIndex} {ranges : List AddressRange}
    {more : List Mount} (h : index.Indexes ranges)
    (hindex : bus.indexFrom ranges.length index more = (.ok (), after)) :
    after.Indexes (ranges ++ more.map Mount.range) := by
  induction more generalizing index ranges with
  | nil =>
      cases hindex
      rwa [List.map_nil, List.append_nil]
  | cons mount rest ih =>
      rw [indexFrom] at hindex
      split at hindex
      next next hinsert =>
        have hlength : ranges.length + 1 = (ranges ++ [mount.range]).length := by simp
        rw [hlength] at hindex
        rw [List.map_cons, List.append_cons]
        exact ih (h.insert hinsert) hindex
      next => cases hindex

/-- An index that is rebuilt is canonical, also if a range is not accepted. -/
theorem canonical_indexFrom (bus : Bus) (slot : Nat) {index : RangeIndex} (h : index.Canonical)
    (more : List Mount) : (bus.indexFrom slot index more).2.Canonical := by
  induction more generalizing slot index with
  | nil => exact h
  | cons mount rest ih =>
      rw [indexFrom]
      split
      next hinsert => exact ih (slot + 1) (RangeIndex.canonical_insert h hinsert)
      next => exact h

/-- A refresh that is accepted puts the index in step with the mounts. -/
theorem indexed_refresh {after : Bus} (hrefresh : bus.refresh = (.ok (), after)) :
    after.Indexed := by
  rw [refresh] at hrefresh
  obtain ⟨hresult, rfl⟩ := Prod.mk.inj hrefresh
  have hindex : bus.indexFrom 0 .empty bus.mounts =
      (.ok (), (bus.indexFrom 0 .empty bus.mounts).2) := Prod.ext hresult rfl
  exact indexes_indexFrom RangeIndex.indexes_nil hindex

/-! ## what the host does -/

/-- Something that the host does with a bus: it operates it, edits the list of mounts,
refreshes the index, uses a device and the board through its handles, sets the policy,
or changes the observers. -/
inductive HostStep where
  | operate (operation : Operation)
  | append (mount : Mount)
  | remove (slot : Nat)
  | move (slot : Nat) (range : AddressRange)
  | refresh
  | change (slot : Nat) (device : Device) (board : Board)
  | setPolicy (policy : FaultPolicy)
  | attach (record : Record)
  | detachAll

/-- The device that a step brings to the bus. -/
def HostStep.device? : HostStep → Option Device
  | .operate (.mount _ _ device) | .change _ device _ => some device
  | .append mount => some mount.device
  | .operate (.traffic _) | .remove _ | .move .. | .refresh | .setPolicy _ | .attach _
  | .detachAll => none

/-- The bus after a step of the host. -/
def hostStep (bus : Bus) : HostStep → Bus
  | .operate operation => bus.perform operation
  | .append mount => bus.appendMount mount
  | .remove slot => bus.removeMount slot
  | .move slot range => bus.moveMount slot range
  | .refresh => bus.refresh.2
  | .change slot device board => bus.update slot device board
  | .setPolicy policy => { bus with policy }
  | .attach record => bus.attach record
  | .detachAll => bus.detachAll

/-- The bus after steps of the host, first to last. -/
def hostRun (bus : Bus) (steps : List HostStep) : Bus := steps.foldl hostStep bus

theorem canonical_hostStep (h : bus.index.Canonical) (step : HostStep) :
    (bus.hostStep step).index.Canonical := by
  cases step with
  | operate operation =>
      cases operation with
      | mount name range device =>
          rw [hostStep, Bus.perform]
          split
          next after hmount =>
            obtain ⟨index, hinsert, rfl⟩ := mount_eq_ok hmount
            exact RangeIndex.canonical_insert h hinsert
          next => exact h
      | traffic traffic =>
          exact @handle_induction (fun after => after.index.Canonical) (fun _ _ h => h)
            (fun _ _ _ _ _ h => h) (fun _ _ _ _ _ _ h => h) (fun _ h => h) (fun _ _ h => h)
            bus h traffic
  | refresh => exact bus.canonical_indexFrom 0 RangeIndex.canonical_empty bus.mounts
  | append | remove | move | change | setPolicy | attach | detachAll => exact h

/-- The index is canonical whatever the host does. -/
theorem canonical_hostRun (h : bus.index.Canonical) (steps : List HostStep) :
    (bus.hostRun steps).index.Canonical := by
  induction steps generalizing bus with
  | nil => exact h
  | cons step rest ih => exact ih (canonical_hostStep h step)

/-- A sound device may be mounted on a sound bus. -/
theorem Sound.concat (h : bus.Sound) (hdevice : mount.device.Sound) :
    ∀ other ∈ bus.mounts ++ [mount], other.device.Sound := by
  intro other hmem
  obtain hold | hnew := List.mem_append.mp hmem
  · exact h other hold
  · obtain rfl := List.mem_singleton.mp hnew
    exact hdevice

theorem Sound.perform (h : bus.Sound) {operation : Operation}
    (hdevice : ∀ device ∈ (HostStep.operate operation).device?, device.Sound) :
    (bus.perform operation).Sound := by
  cases operation with
  | mount name range device =>
      rw [Bus.perform]
      split
      next after hmount =>
        obtain ⟨index, -, rfl⟩ := mount_eq_ok hmount
        exact h.concat (hdevice device rfl)
      next => exact h
  | traffic traffic => exact h.handle traffic

/-- **Step**: the bus is sound as long as the devices are that are brought to it. -/
theorem Sound.hostStep (h : bus.Sound) {step : HostStep}
    (hdevice : ∀ device ∈ step.device?, device.Sound) : (bus.hostStep step).Sound := by
  cases step with
  | operate operation => exact h.perform hdevice
  | append mount => exact h.concat (hdevice mount.device rfl)
  | remove slot => exact fun mount hmem => h mount (List.mem_of_mem_eraseIdx hmem)
  | move slot range =>
      intro mount hmem
      obtain ⟨other, hother⟩ := List.mem_iff_getElem?.mp hmem
      rw [Bus.hostStep, moveMount, List.getElem?_modify] at hother
      obtain ⟨old, hold, rfl⟩ := Option.map_eq_some_iff.mp hother
      have hsound := h.device hold
      split <;> exact hsound
  | change slot device board => exact h.update slot (hdevice device rfl) board
  | refresh | setPolicy | attach | detachAll => exact h

theorem Sound.hostRun (h : bus.Sound) {steps : List HostStep}
    (hdevices : ∀ step ∈ steps, ∀ device ∈ step.device?, device.Sound) :
    (bus.hostRun steps).Sound := by
  induction steps generalizing bus with
  | nil => exact h
  | cons step rest ih =>
      have hstep := h.hostStep (hdevices step List.mem_cons_self)
      exact ih hstep fun other hother => hdevices other (List.mem_cons_of_mem _ hother)

/-! ## mounting beside a stale index -/

/-- A mount breaks off exactly if its range overlaps an indexed range whose mount is no
longer there to be named. -/
theorem mount_eq_broken_iff (bus : Bus) (name : String) (range : AddressRange) (device : Device)
    (defect : Defect) :
    bus.mount name range device = .error (.broken defect) ↔
      defect = .noSuchMount ∧ ∃ slot, bus.mounts.length ≤ slot ∧
        bus.index.insert range bus.mounts.length = .error (.overlaps slot) := by
  rw [Bus.mount]
  cases bus.index.insert range bus.mounts.length with
  | ok index => simp
  | error conflict =>
      cases conflict with
      | empty => simp [mountError]
      | overlaps slot =>
          cases hmount : bus.mounts[slot]? with
          | none =>
              have hle := List.getElem?_eq_none_iff.mp hmount
              simp [mountError, hle, eq_comm]
          | some mount =>
              have hlt := (List.getElem?_eq_some_iff.mp hmount).1
              simp [mountError, hlt]

/-- **Stale index**: whatever the host does with a bus and its list of mounts, reads and
writes do not break off if the devices are sound.  A mount breaks off exactly if it is in
the way of an indexed range whose mount is gone.  An access is handed to the mount in
the slot that the index names for its address, if there is one, which is also the owner
that the bus tells; else it faults.  It stays inside the current ranges exactly if each
indexed range does, as far as multiples of four go; so it does after a refresh that is
accepted, and after mounts are appended then. -/
theorem dispatch_of_hostRun (policy : FaultPolicy) (board : Board) (steps : List HostStep)
    (hdevices : ∀ step ∈ steps, ∀ device ∈ step.device?, device.Sound) :
    let bus := (fresh policy board).hostRun steps
    (∀ address defect, (bus.read address).1 ≠ .crashed defect) ∧
    (∀ address value defect, (bus.write address value).1 ≠ .crashed defect) ∧
    (∀ name range device defect, bus.mount name range device = .error (.broken defect) ↔
      defect = .noSuchMount ∧ ∃ slot, bus.mounts.length ≤ slot ∧
        bus.index.insert range bus.mounts.length = .error (.overlaps slot)) ∧
    (∀ address slot mount offset, bus.target? address = some (slot, mount, offset) ↔
      4 ∣ address.toNat ∧
        (∃ region ∈ bus.index.regions, region.range.contains address = true ∧
          region.slot = slot) ∧
        bus.mounts[slot]? = some mount ∧ offset = address - mount.range.base) ∧
    (∀ address : UInt32, 4 ∣ address.toNat →
      bus.owner? address = (bus.target? address).map fun target => target.2.1.name) ∧
    (∀ (α : Type) request
        (use : Device → Board → (offset : UInt32) → Reply (Device × Board) α),
      (∀ slot mount offset, bus.target? request.address = some (slot, mount, offset) →
        bus.faultAfter ≠ some 0 →
        bus.access request use =
          (bus.policy.conclude (use mount.device bus.board offset).result,
            (bus.noted request).update slot (use mount.device bus.board offset).state.1
              (use mount.device bus.board offset).state.2)) ∧
      (bus.target? request.address = none →
        ∃ cause, bus.access request use = (bus.policy.onFault cause, bus.noted request))) ∧
    (bus.Inside ↔
      ∀ region ∈ bus.index.regions, ∀ mount, bus.mounts[region.slot]? = some mount →
        ∀ address : UInt32, 4 ∣ address.toNat → region.range.contains address = true →
          mount.range.contains address = true) ∧
    ∀ after, bus.refresh = (.ok (), after) →
      ∀ more : List Mount, (more.foldl appendMount after).Inside := by
  have hsound := (sound_fresh policy board).hostRun hdevices
  have hcanonical : ((fresh policy board).hostRun steps).index.Canonical :=
    canonical_hostRun RangeIndex.canonical_empty steps
  intro bus
  refine ⟨hsound.read_ne_crashed, hsound.write_ne_crashed, bus.mount_eq_broken_iff, ?_,
    fun address => bus.owner?_eq_target, ?_, inside_iff hcanonical,
    fun after hrefresh more => (indexed_refresh hrefresh).inside_append more⟩
  · intro address slot mount offset
    rw [target?_eq_some_iff, RangeIndex.lookup_eq_some_iff hcanonical]
  · intro α request use
    exact ⟨fun slot mount offset htarget hcountdown => access_of_target htarget hcountdown use,
      fun htarget => access_of_no_target htarget use⟩

/-- The host moves the first of two mounts and removes the second. -/
theorem dispatch_of_moved :
    let steps : List HostStep :=
      [.operate (.mount "a" ⟨0x1000, 0x100⟩ (.latch 0)),
        .operate (.mount "b" ⟨0x3000, 0x100⟩ (.latch 0)), .move 0 ⟨0x2000, 0x100⟩, .remove 1]
    let bus := (fresh .error (.fresh 0 0)).hostRun steps
    (∀ step ∈ steps, ∀ device ∈ step.device?, device.Sound) ∧
    (∀ defect, (bus.read 0x1000).1 ≠ .crashed defect) ∧
    (bus.mount "c" ⟨0x3000, 0x100⟩ (.latch 0)) = .error (.broken .noSuchMount) ∧
    bus.target? 0x1000 = some (0, ⟨"a", ⟨0x2000, 0x100⟩, .latch 0⟩, 0xFFFFF000) ∧
    ¬ bus.Inside := by
  intro steps bus
  have hdevices : ∀ step ∈ steps, ∀ device ∈ step.device?, device.Sound := by
    simp [steps, HostStep.device?, Device.Sound]
  obtain ⟨hread, -, hmount, htarget, -, -, hinside, -⟩ :=
    dispatch_of_hostRun .error (.fresh 0 0) steps hdevices
  refine ⟨hdevices, hread 0x1000, ?_, ?_, ?_⟩
  · exact (hmount _ _ _ _).mpr ⟨rfl, 1, by decide, by decide⟩
  · exact (htarget _ _ _ _).mpr
      ⟨by decide, ⟨⟨⟨0x1000, 0x100⟩, 0⟩, by decide, by decide, rfl⟩, by decide, by decide⟩
  · rw [hinside]
    intro hregions
    have hcontains := hregions ⟨⟨0x1000, 0x100⟩, 0⟩ (by decide) ⟨"a", ⟨0x2000, 0x100⟩, .latch 0⟩
      (by decide) 0x1000 (by decide) (by decide)
    exact absurd hcontains (by decide)

/-- A mount that was moved is read at its old address, with an offset from its new base,
and one that was removed makes the next mount break off. -/
theorem moved_mount_is_read :
    let mount : HostStep := .operate (.mount "a" ⟨0x1000, 0x100⟩ (.latch 0))
    let moved := (fresh .error (.fresh 0 0)).hostRun [mount, .move 0 ⟨0x2000, 0x100⟩]
    let removed := (fresh .error (.fresh 0 0)).hostRun [mount, .remove 0]
    (moved.read 0x1000).1 = .served 0xFFFFF000 ∧
    (∀ mount ∈ moved.mounts, ¬ mount.range.contains 0x1000 = true) ∧
    removed.mount "b" ⟨0x1000, 0x100⟩ (.latch 0) = .error (.broken .noSuchMount) := by
  refine ⟨rfl, by decide, rfl⟩

/-! ## the alignment of offsets -/

/-- The offset of a target is a multiple of four exactly if the base is. -/
theorem dvd_offset_iff (htarget : bus.target? address = some (slot, mount, offset)) :
    4 ∣ offset.toNat ↔ 4 ∣ mount.range.base.toNat := by
  obtain ⟨halign, -, -, rfl⟩ := target?_eq_some_iff.mp htarget
  have hbase := mount.range.base.toNat_lt
  rw [UInt32.toNat_sub]
  omega

/-- Where the offsets of all targets are multiples of four, an access depends on what the
devices do at such offsets alone. -/
theorem access_congr (h : ∀ slot mount offset,
      bus.target? address = some (slot, mount, offset) → 4 ∣ offset.toNat) {α : Type}
    {use rival : Device → Board → (offset : UInt32) → Reply (Device × Board) α}
    (huse : ∀ device board offset, 4 ∣ offset.toNat →
      use device board offset = rival device board offset)
    {request : Access} (haddress : request.address = address) :
    bus.access request use = bus.access request rival := by
  have hnoted : (bus.noted request).target? address = bus.target? address := rfl
  rw [access_eq, access_eq, dispatch_eq, dispatch_eq, haddress, hnoted]
  cases htarget : bus.target? address with
  | none => rfl
  | some target =>
      obtain ⟨slot, mount, offset⟩ := target
      simp only [huse _ _ _ (h slot mount offset htarget)]

/-- **Offsets**: on a bus on which devices were mounted and used, an access is handed to a
device at an offset that is a multiple of four exactly if the base of the mount is.  So
all are exactly if the bases of all mounts are whose ranges contain a multiple of four,
and then what the devices do at other offsets does not matter. -/
theorem offsets_of_run (policy : FaultPolicy) (board : Board) (operations : List Operation) :
    let bus := (fresh policy board).run operations
    (∀ address slot mount offset, bus.target? address = some (slot, mount, offset) →
      address.toNat = mount.range.base.toNat + offset.toNat ∧
        (4 ∣ offset.toNat ↔ 4 ∣ mount.range.base.toNat)) ∧
    ((∀ address slot mount offset, bus.target? address = some (slot, mount, offset) →
        4 ∣ offset.toNat) ↔
      ∀ mount ∈ bus.mounts,
        (∃ address : UInt32, 4 ∣ address.toNat ∧ mount.range.contains address = true) →
          4 ∣ mount.range.base.toNat) ∧
    ((∀ mount ∈ bus.mounts, 4 ∣ mount.range.base.toNat) →
      ∀ (α : Type) request
        (use rival : Device → Board → (offset : UInt32) → Reply (Device × Board) α),
        (∀ device board offset, 4 ∣ offset.toNat →
          use device board offset = rival device board offset) →
        bus.access request use = bus.access request rival) := by
  have h : ((fresh policy board).run operations).Indexed := (indexed_fresh policy board).run _
  intro bus
  refine ⟨?_, ?_, ?_⟩
  · intro address slot mount offset htarget
    exact ⟨(h.inside _ _ _ _ htarget).1, dvd_offset_iff htarget⟩
  · constructor
    · rintro haligned mount hmem ⟨address, halign, hcontains⟩
      obtain ⟨slot, hmount⟩ := List.mem_iff_getElem?.mp hmem
      have hlookup := (h.lookup_eq_some_iff address slot).mpr ⟨mount, hmount, hcontains⟩
      have htarget : bus.target? address = some (slot, mount, address - mount.range.base) :=
        target?_eq_some_iff.mpr ⟨halign, hlookup, hmount, rfl⟩
      exact (dvd_offset_iff htarget).mp (haligned _ _ _ _ htarget)
    · intro hbases address slot mount offset htarget
      obtain ⟨halign, hlookup, hmount, -⟩ := target?_eq_some_iff.mp htarget
      have hcontains := (contains_iff_offset htarget).mpr (h.inside _ _ _ _ htarget)
      exact (dvd_offset_iff htarget).mpr
        (hbases mount (List.mem_of_getElem? hmount) ⟨address, halign, hcontains⟩)
  · intro hbases α request use rival huse
    refine access_congr (fun slot mount offset htarget => ?_) huse rfl
    obtain ⟨-, -, hmount, -⟩ := target?_eq_some_iff.mp htarget
    exact (dvd_offset_iff htarget).mpr (hbases mount (List.mem_of_getElem? hmount))

/-- A device that is mounted at 0x1002 is read at the offset 2. -/
theorem offset_two_is_read :
    let bus := (fresh .error (.fresh 0 0)).run [.mount "a" ⟨0x1002, 0x100⟩ (.latch 0)]
    bus.target? 0x1004 = some (0, ⟨"a", ⟨0x1002, 0x100⟩, .latch 0⟩, 2) ∧
    (bus.read 0x1004).1 = .served 2 ∧
    ¬ 4 ∣ (2 : UInt32).toNat := by
  refine ⟨rfl, rfl, by decide⟩

end BoardSim.Bus
