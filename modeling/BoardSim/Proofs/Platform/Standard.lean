import BoardSim.Platform
import BoardSim.Preload
import BoardSim.Proofs.Bus.Routing

/-!
# BoardSim.Proofs.Platform.Standard

The standard board through all that is done to it.

Besides the traffic of the firmware there is what the host does through its handles:
it drives pins, loads flash chips and the serial memory, fills the mailbox, and moves
the clock (`Operation`).  None of it changes where the devices stand, which devices
they are, or what they would be after a reset (`Standard`).  So each address of the
memory map leads to the same device in every state of the board, and so does each
name.
-/

namespace BoardSim.Platform

open Flash (Chip)

/-! ## what is done to a board -/

/-- Something that the firmware or the host does. -/
inductive Operation where
  | traffic (traffic : Traffic)
  | setOutputs (value : UInt32)
  | setInputs (value : UInt32)
  | loadFlash (chip : Chip) (offset : Nat) (bytes : List UInt8)
  | preloadMemory (address : Nat) (bytes : List UInt8)
  | pushMailbox (bytes : List UInt8)
  | preloadMailbox (offset value : UInt32)
  | advanceClock (nanos : Nat)
  | setClock (nanos : Nat)
deriving DecidableEq

/-- The bus with the first device of a name changed, if there is one. -/
def changeNamed (bus : Bus) (name : String) (change : Device → Device) : Bus :=
  match bus.deviceNamed? name with
  | some device => bus.replaceNamed name (change device)
  | none => bus

/-- A preload of the serial memory, which leaves any other device alone. -/
def preloadMemory (address : Nat) (bytes : List UInt8) : Device → Device
  | .serialMemory memory => .serialMemory (memory.preload address bytes)
  | device => device

/-- The host's bytes in the mailbox's queue; any other device is left alone. -/
def pushMailbox (bytes : List UInt8) : Device → Device
  | .mailbox box => .mailbox (bytes.foldl Mailbox.pushIncoming box)
  | device => device

/-- A word that the host sets in the mailbox; any other device is left alone. -/
def preloadMailbox (offset value : UInt32) : Device → Device
  | .mailbox box => .mailbox (box.preload offset value)
  | device => device

/-- The bus after something was done. -/
def perform (bus : Bus) : Operation → Bus
  | .traffic traffic => bus.handle traffic
  | .setOutputs outputs =>
      { bus with board := { bus.board with pins := { bus.board.pins with outputs } } }
  | .setInputs inputs =>
      { bus with board := { bus.board with pins := { bus.board.pins with inputs } } }
  | .loadFlash chip offset bytes =>
      match Preload.intoFlash bus.board.flash chip offset bytes with
      | .ok flash => { bus with board := { bus.board with flash } }
      | .error _ => bus
  | .preloadMemory address bytes =>
      changeNamed bus serialMemoryName (preloadMemory address bytes)
  | .pushMailbox bytes => changeNamed bus mailboxName (pushMailbox bytes)
  | .preloadMailbox offset value => changeNamed bus mailboxName (preloadMailbox offset value)
  | .advanceClock nanos => { bus with board := bus.board.advanceClock nanos }
  | .setClock nanos => { bus with board := bus.board.setClock nanos }

/-- The bus after a sequence of operations. -/
def run (bus : Bus) (operations : List Operation) : Bus := operations.foldl perform bus

@[simp] theorem run_nil (bus : Bus) : run bus [] = bus := rfl

@[simp] theorem run_cons (bus : Bus) (operation : Operation) (rest : List Operation) :
    run bus (operation :: rest) = run (perform bus operation) rest := rfl

theorem policy_changeNamed (bus : Bus) (name : String) (change : Device → Device) :
    (changeNamed bus name change).policy = bus.policy := by
  rw [changeNamed]
  split
  next =>
    rw [Bus.replaceNamed]
    split <;> rfl
  next => rfl

theorem policy_perform (bus : Bus) (operation : Operation) :
    (perform bus operation).policy = bus.policy := by
  cases operation with
  | traffic traffic =>
      exact @Bus.handle_induction (fun after => after.policy = bus.policy) (fun _ _ h => h)
        (fun _ _ _ _ _ h => h) (fun _ _ _ _ _ _ h => h) (fun _ h => h) (fun _ _ h => h) bus rfl
        traffic
  | setOutputs | setInputs | advanceClock | setClock => rfl
  | loadFlash =>
      rw [perform]
      split <;> rfl
  | preloadMemory | pushMailbox | preloadMailbox => exact policy_changeNamed bus _ _

/-- Nothing that is done to a board changes its fault policy. -/
theorem policy_run (bus : Bus) (operations : List Operation) :
    (run bus operations).policy = bus.policy := by
  induction operations generalizing bus with
  | nil => rfl
  | cons operation rest ih => rw [run_cons, ih, policy_perform]

/-! ## mounting one device after the other -/

/-- Index ranges from a slot on. -/
def indexAll (index : RangeIndex) (slot : Nat) :
    List AddressRange → Except RangeIndex.Conflict RangeIndex
  | [] => .ok index
  | range :: rest =>
      match index.insert range slot with
      | .ok after => indexAll after (slot + 1) rest
      | .error conflict => .error conflict

/-- Devices are all mounted if their ranges can be indexed. -/
theorem mountAll_eq_ok {bus : Bus} {mounts : List Mount} {index : RangeIndex}
    (h : indexAll bus.index bus.mounts.length (mounts.map Mount.range) = .ok index) :
    mountAll bus mounts = .ok { bus with index, mounts := bus.mounts ++ mounts } := by
  induction mounts generalizing bus with
  | nil =>
      obtain rfl := Except.ok.inj h
      rw [List.append_nil]
      rfl
  | cons mount rest ih =>
      rw [List.map_cons, indexAll] at h
      split at h
      next after hinsert =>
        have hmount : bus.mount mount.name mount.range mount.device =
            .ok { bus with index := after, mounts := bus.mounts ++ [mount] } := by
          simp [Bus.mount, hinsert]
        have hlength : bus.mounts.length + 1 = (bus.mounts ++ [mount]).length := by simp
        rw [hlength] at h
        have hrest : mountAll { bus with index := after, mounts := bus.mounts ++ [mount] } rest =
            .ok { bus with index, mounts := bus.mounts ++ [mount] ++ rest } := ih h
        rw [List.append_assoc] at hrest
        rw [mountAll, List.foldlM_cons, hmount]
        exact hrest
      next => cases h

theorem indexes_indexAll {index after : RangeIndex} {ranges more : List AddressRange}
    (h : index.Indexes ranges) (hindex : indexAll index ranges.length more = .ok after) :
    after.Indexes (ranges ++ more) := by
  induction more generalizing index ranges with
  | nil =>
      obtain rfl := Except.ok.inj hindex
      rwa [List.append_nil]
  | cons range rest ih =>
      rw [indexAll] at hindex
      split at hindex
      next next hinsert =>
        have hlength : ranges.length + 1 = (ranges ++ [range]).length := by simp
        rw [hlength] at hindex
        rw [List.append_cons]
        exact ih (h.insert hinsert) hindex
      next => cases hindex

/-! ## the standard mounts -/

/-- The index of the memory map. -/
def standardIndex : RangeIndex := ⟨memoryMap.zipIdx.map fun entry => ⟨entry.1.2, entry.2⟩⟩

/-- The board at power-up. -/
def assembled (manifest : Manifest) (policy : FaultPolicy) (bmcSize pchSize : Nat) : Bus :=
  { Bus.fresh policy (.fresh bmcSize pchSize) with
    index := standardIndex
    mounts := mounts manifest }

theorem indexAll_memoryMap :
    indexAll .empty 0 (memoryMap.map Prod.snd) = .ok standardIndex := by
  rfl

/-- A board is built if its images have sizes and fit into the window: the standard
ranges are never in each other's way. -/
theorem build_eq_ok_iff (plan : Plan) (environment : Option String) (bus : Bus) :
    plan.build environment = .ok bus ↔
      ∃ bmcSize pchSize, plan.imageSizes = .ok (bmcSize, pchSize) ∧
        bmcSize ≤ flashWindowRange.span.toNat ∧ pchSize ≤ flashWindowRange.span.toNat ∧
        bus = assembled plan.manifest (plan.resolvedPolicy environment) bmcSize pchSize := by
  have hmount (bmcSize pchSize : Nat) :
      mountAll (.fresh (plan.resolvedPolicy environment) (.fresh bmcSize pchSize))
          (mounts plan.manifest) =
        .ok (assembled plan.manifest (plan.resolvedPolicy environment) bmcSize pchSize) :=
    mountAll_eq_ok indexAll_memoryMap
  rw [Plan.build]
  cases hsizes : plan.imageSizes with
  | error failure => simp [bind, Except.bind]
  | ok sizes =>
      obtain ⟨bmcSize, pchSize⟩ := sizes
      simp only [bind, Except.bind, hmount]
      split
      next hexcess =>
        simp only [refuse, reduceCtorEq, Except.ok.injEq, Prod.mk.injEq, false_iff]
        rintro ⟨bmc, pch, ⟨rfl, rfl⟩, hbmc, hpch, -⟩
        omega
      next hfit =>
        simp only [Except.mapError, Except.ok.injEq, Prod.mk.injEq]
        constructor
        · rintro rfl
          exact ⟨bmcSize, pchSize, ⟨rfl, rfl⟩, by omega, by omega, rfl⟩
        · rintro ⟨bmc, pch, ⟨rfl, rfl⟩, -, -, rfl⟩
          rfl

/-- The bus has the standard devices at their places, and a reset would return each
to its state at power-up. -/
structure Standard (manifest : Manifest) (bus : Bus) : Prop where
  index : bus.index = standardIndex
  placed : bus.mounts.map Mount.poweredUp = mounts manifest

/-- What holds of each standard mount holds of all. -/
theorem mounts_cases {manifest : Manifest} {motive : Mount → Prop} {place : Mount}
    (h : place ∈ mounts manifest)
    (pins : motive ⟨pinsName, ⟨0x1000, 0x10⟩, .pins⟩)
    (timers : motive ⟨timersName, ⟨0x1100, 0x10⟩,
      .timers (.fresh (manifest.tickMillis.toNat * Timers.nanosPerMilli))⟩)
    (reconfig : motive ⟨reconfigName, ⟨0x1200, 0x20⟩,
      .reconfig (.fresh manifest.busyPolls.toNat)⟩)
    (cryptoBlock : motive ⟨cryptoName, ⟨0x1300, 0x40⟩,
      .cryptoBlock (.fresh manifest.doneLatency.toNat)⟩)
    (serialMemory : motive ⟨serialMemoryName, ⟨0x1400, 0x40⟩, .serialMemory .fresh⟩)
    (flashController : motive ⟨flashControllerName, ⟨0x1500, 0x40⟩, .flashController .fresh⟩)
    (mailbox : motive ⟨mailboxName, ⟨0x2000, 0x400⟩, .mailbox .fresh⟩)
    (bmcPageMap : motive ⟨bmcPageMapName, pageMapRange .bmc,
      .pageMap (.fresh .bmc (pageMapRange .bmc).span)⟩)
    (pchPageMap : motive ⟨pchPageMapName, pageMapRange .pch,
      .pageMap (.fresh .pch (pageMapRange .pch).span)⟩)
    (flashWindow : motive ⟨flashWindowName, flashWindowRange, .flashWindow⟩) : motive place := by
  simp only [mounts, memoryMap, devices, List.zipWith_cons_cons, List.zipWith_nil_left,
    List.mem_cons, List.not_mem_nil, or_false] at h
  obtain rfl | rfl | rfl | rfl | rfl | rfl | rfl | rfl | rfl | rfl := h
  all_goals assumption

/-- The standard devices are in the state that a reset returns them to. -/
theorem poweredUp_of_mem {manifest : Manifest} {mount : Mount} (h : mount ∈ mounts manifest) :
    mount.poweredUp = mount := by
  apply mounts_cases h
  case cryptoBlock =>
    have hfresh := Device.poweredUp_poweredUp
      (.cryptoBlock { latency := manifest.doneLatency.toNat })
    exact congrArg (Mount.mk cryptoName ⟨0x1300, 0x40⟩) hfresh
  all_goals rfl

theorem map_poweredUp_mounts (manifest : Manifest) :
    (mounts manifest).map Mount.poweredUp = mounts manifest := by
  rw [List.map_congr_left fun _ => poweredUp_of_mem, List.map_id']

theorem standard_assembled (manifest : Manifest) (policy : FaultPolicy) (bmcSize pchSize : Nat) :
    Standard manifest (assembled manifest policy bmcSize pchSize) where
  index := rfl
  placed := map_poweredUp_mounts manifest

variable {manifest : Manifest} {bus : Bus}

theorem Standard.update (h : Standard manifest bus) {slot : Nat} {device : Device}
    (hdevice : ∀ mount, bus.mounts[slot]? = some mount →
      device.poweredUp = mount.device.poweredUp) (board : Board) :
    Standard manifest (bus.update slot device board) where
  index := h.index
  placed := by
    rw [← h.placed]
    refine Bus.map_update bus slot device board fun mount hmount => ?_
    rw [Mount.poweredUp, Mount.poweredUp, hdevice mount hmount]

theorem Standard.reset (h : Standard manifest bus) : Standard manifest bus.reset where
  index := h.index
  placed := by
    rw [Bus.mounts_reset, h.placed, map_poweredUp_mounts]

/-- A reset of the standard devices lets the pins go and erases both chips; the clock
goes on. -/
theorem Standard.board_reset (h : Standard manifest bus) :
    bus.reset.board = { bus.board with pins := {}, flash := bus.board.flash.reset } := by
  calc bus.reset.board = (Bus.resetMounts (mounts manifest) bus.board).2 := by
        rw [← h.placed, ← Bus.snd_resetMounts]
        rfl
    _ = { bus.board with pins := {}, flash := bus.board.flash.reset } := rfl

theorem Standard.handle (h : Standard manifest bus) (traffic : Traffic) :
    Standard manifest (bus.handle traffic) := by
  refine Bus.handle_induction (fun _ _ h => ⟨h.index, h.placed⟩) ?_ ?_ (fun _ h => h.reset)
    (fun _ _ h => ⟨h.index, h.placed⟩) h traffic
  · intro bus slot mount offset hmount h
    refine h.update (fun other hother => ?_) _
    obtain rfl := Option.some.inj (hmount.symm.trans hother)
    exact mount.device.poweredUp_read bus.board offset
  · intro bus slot mount offset value hmount h
    refine h.update (fun other hother => ?_) _
    obtain rfl := Option.some.inj (hmount.symm.trans hother)
    exact mount.device.poweredUp_write bus.board offset value

theorem Standard.changeNamed (h : Standard manifest bus) (name : String) {change : Device → Device}
    (hchange : ∀ device, (change device).poweredUp = device.poweredUp) :
    Standard manifest (changeNamed bus name change) := by
  rw [Platform.changeNamed]
  split
  next device hdevice =>
    rw [Bus.replaceNamed]
    split
    next slot hslot =>
      refine h.update (fun mount hmount => ?_) _
      rw [Bus.deviceNamed?_eq, hslot, Option.bind_some, hmount, Option.map_some] at hdevice
      rw [hchange, ← Option.some.inj hdevice]
    next => exact h
  next => exact h

/-- **Step**: nothing that is done to a board changes what it is made of. -/
theorem Standard.perform (h : Standard manifest bus) (operation : Operation) :
    Standard manifest (perform bus operation) := by
  cases operation with
  | traffic traffic => exact h.handle traffic
  | setOutputs | setInputs | advanceClock | setClock => exact ⟨h.index, h.placed⟩
  | loadFlash chip offset bytes =>
      rw [Platform.perform]
      split
      next => exact ⟨h.index, h.placed⟩
      next => exact h
  | preloadMemory address bytes =>
      refine h.changeNamed _ fun device => ?_
      cases device <;> rfl
  | pushMailbox bytes =>
      refine h.changeNamed _ fun device => ?_
      cases device <;> rfl
  | preloadMailbox offset value =>
      refine h.changeNamed _ fun device => ?_
      cases device <;> rfl

theorem Standard.run (h : Standard manifest bus) (operations : List Operation) :
    Standard manifest (run bus operations) := by
  induction operations generalizing bus with
  | nil => exact h
  | cons operation rest ih => exact ih (h.perform operation)

/-! ## the places of the devices -/

theorem Standard.places (h : Standard manifest bus) :
    bus.mounts.map (fun mount => (mount.name, mount.range)) = memoryMap := by
  calc bus.mounts.map (fun mount => (mount.name, mount.range))
      = (bus.mounts.map Mount.poweredUp).map fun mount => (mount.name, mount.range) := by
        rw [List.map_map]
        rfl
    _ = memoryMap := by
        rw [h.placed]
        rfl

theorem Standard.names (h : Standard manifest bus) :
    bus.mounts.map Mount.name = memoryMap.map Prod.fst := by
  rw [← h.places, List.map_map]
  rfl

theorem Standard.indexed (h : Standard manifest bus) : bus.Indexed := by
  have hranges : bus.ranges = memoryMap.map Prod.snd := by
    rw [← h.places, List.map_map]
    rfl
  have hindexes := indexes_indexAll RangeIndex.indexes_nil indexAll_memoryMap
  rw [Bus.Indexed, h.index, hranges]
  exact hindexes

/-- In each slot stands the standard device, whatever has become of it. -/
theorem Standard.mount_at (h : Standard manifest bus) (slot : Nat) {place : Mount}
    (hplace : (mounts manifest)[slot]? = some place) :
    ∃ device, device.poweredUp = place.device ∧
      bus.mounts[slot]? = some { place with device } := by
  rw [← h.placed, List.getElem?_map] at hplace
  obtain ⟨mount, hmount, rfl⟩ := Option.map_eq_some_iff.mp hplace
  exact ⟨mount.device, rfl, hmount⟩

theorem Standard.place_at (h : Standard manifest bus) {slot : Nat} {mount : Mount}
    (hmount : bus.mounts[slot]? = some mount) :
    (mounts manifest)[slot]? = some mount.poweredUp := by
  rw [← h.placed, List.getElem?_map, hmount, Option.map_some]

/-- The device in a slot is found under its name. -/
theorem Standard.deviceNamed? (h : Standard manifest bus) (slot : Nat) {name : String}
    (hname : (memoryMap.map Prod.fst).findIdx? (· = name) = some slot) :
    bus.deviceNamed? name = bus.mounts[slot]?.map Mount.device := by
  rw [Bus.deviceNamed?_eq, Bus.slotOf?_eq, h.names, hname, Option.bind_some]

end BoardSim.Platform
