import BoardSim.Proofs.Bus.Routing
import BoardSim.Proofs.SortedMap

/-!
# BoardSim.Proofs.Bus.Snapshots

What a bus records of its devices, and what their names have to do with it.

A mount is accepted for its range, whatever its name, so several devices can have one name.
The recorded states hold one for each name, that of the last device with the name
(`get?_snapshots`), but a name leads to the first one (`Bus.deviceNamed?`).  So all devices
are recorded exactly if no two have the same name (`size_snapshots_eq_iff`), and then what is
recorded under a name is the state of the device that the name leads to.
-/

namespace BoardSim

/-! ## names in lists of mounts -/

/-- Of mounts with different names, each is found by its name. -/
theorem find?_name {mounts : List Mount} (h : (mounts.map Mount.name).Nodup) {mount : Mount}
    (hmem : mount ∈ mounts) :
    mounts.find? (fun other => other.name = mount.name) = some mount := by
  induction mounts with
  | nil => cases hmem
  | cons first rest ih =>
      obtain ⟨hfirst, hrest⟩ := List.nodup_cons.mp h
      obtain rfl | hlater := List.mem_cons.mp hmem
      · exact List.find?_cons_of_pos (decide_eq_true rfl)
      · have hother : first.name ≠ mount.name := by
          intro hsame
          exact hfirst (hsame ▸ List.mem_map_of_mem hlater)
        rw [List.find?_cons_of_neg (by simpa using hother)]
        exact ih hrest hlater

/-- To look up a name among what is told of mounts is to find the mount first. -/
theorem lookup_map_name {α : Type} (tell : Mount → α) (mounts : List Mount) (name : String) :
    (mounts.map fun mount => (mount.name, tell mount)).lookup name =
      (mounts.find? fun mount => mount.name = name).map tell := by
  induction mounts with
  | nil => rfl
  | cons mount rest ih =>
      rw [List.map_cons, SortedMap.lookup_entry, ih]
      by_cases h : mount.name = name
      · rw [if_pos h.symm, List.find?_cons_of_pos (by simpa using h), Option.map_some]
      · rw [if_neg (Ne.symm h), List.find?_cons_of_neg (by simpa using h)]

namespace Bus

/-- Names have no part in whether a mount is accepted. -/
theorem isOk_mount (bus : Bus) (name other : String) (range : AddressRange) (device : Device) :
    (bus.mount name range device).isOk = (bus.mount other range device).isOk := by
  rw [mount, mount]
  split <;> rfl

/-! ## what is recorded -/

/-- Under a name the state of the last device with the name is recorded. -/
theorem get?_snapshots (bus : Bus) (name : String) :
    bus.snapshots.get? name =
      (bus.mounts.reverse.find? fun mount => mount.name = name).map
        fun mount => mount.device.snapshot bus.board := by
  rw [snapshots, SortedMap.get?_ofList, ← List.map_reverse, lookup_map_name]

theorem isSome_get?_snapshots (bus : Bus) (name : String) :
    (bus.snapshots.get? name).isSome = (bus.deviceNamed? name).isSome := by
  rw [get?_snapshots, deviceNamed?, Option.isSome_map, Option.isSome_map, Bool.eq_iff_iff,
    List.find?_isSome, List.find?_isSome]
  simp

/-- There are as many recorded states as different names. -/
theorem size_snapshots (bus : Bus) :
    bus.snapshots.size = (bus.mounts.map Mount.name).dedup.length := by
  rw [snapshots, SortedMap.size_ofList, List.map_map]
  rfl

theorem size_snapshots_eq_iff (bus : Bus) :
    bus.snapshots.size = bus.mounts.length ↔ (bus.mounts.map Mount.name).Nodup := by
  rw [size_snapshots, ← List.length_map Mount.name, ← List.dedup_eq_self]
  constructor
  · exact (List.dedup_sublist _).eq_of_length
  · exact fun hdedup => congrArg List.length hdedup

/-- **Recorded states** of any bus.  Under a name that of the last device with the name is
recorded, and there is one exactly if the name leads to a device.  There are as many as
different names, so all devices are recorded exactly if their names differ, for which no
mount is asked.  Then the state of each device is recorded under its name, and its name leads
to it. -/
theorem recorded_states (bus : Bus) :
    (∀ name, bus.snapshots.get? name =
      (bus.mounts.reverse.find? fun mount => mount.name = name).map
        fun mount => mount.device.snapshot bus.board) ∧
    (∀ name, (bus.snapshots.get? name).isSome = (bus.deviceNamed? name).isSome) ∧
    bus.snapshots.size = (bus.mounts.map Mount.name).dedup.length ∧
    (bus.snapshots.size = bus.mounts.length ↔ (bus.mounts.map Mount.name).Nodup) ∧
    (∀ name other range device,
      (bus.mount name range device).isOk = (bus.mount other range device).isOk) ∧
    ((bus.mounts.map Mount.name).Nodup → ∀ mount ∈ bus.mounts,
      bus.snapshots.get? mount.name = some (mount.device.snapshot bus.board) ∧
        bus.deviceNamed? mount.name = some mount.device) := by
  refine ⟨bus.get?_snapshots, bus.isSome_get?_snapshots, bus.size_snapshots,
    bus.size_snapshots_eq_iff, bus.isOk_mount, fun hnames mount hmem => ⟨?_, ?_⟩⟩
  · have hreverse : (bus.mounts.reverse.map Mount.name).Nodup := by
      rw [List.map_reverse]
      exact List.nodup_reverse.mpr hnames
    rw [get?_snapshots, find?_name hreverse (List.mem_reverse.mpr hmem), Option.map_some]
  · rw [deviceNamed?, find?_name hnames hmem, Option.map_some]

/-- Of two banks with one name the second is recorded, and the name leads to the first. -/
theorem twin_is_recorded :
    let bus := (fresh .error (.fresh 0 0)).run
      [.mount "a" ⟨0x1000, 0x10⟩ (.wordBank { span := 0x10 }),
        .mount "a" ⟨0x2000, 0x20⟩ (.wordBank { span := 0x20 })]
    bus.mounts.length = 2 ∧ bus.snapshots.size = 1 ∧
    bus.deviceNamed? "a" = some (.wordBank { span := 0x10 }) ∧
    bus.snapshots.get? "a" = some (WordBank.snapshot { span := 0x20 }) ∧
    WordBank.snapshot { span := 0x20 } ≠ WordBank.snapshot { span := 0x10 } := by
  refine ⟨rfl, rfl, rfl, rfl, ?_⟩
  simp [WordBank.snapshot, Snapshot.word]

end Bus

end BoardSim
