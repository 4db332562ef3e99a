import BoardSim.Bus.Fault
import BoardSim.Bus.Observer
import BoardSim.Device

/-!
# BoardSim.Bus

The word bus: it hands each access of the firmware to the device that owns the
address.

Devices are mounted at address ranges, and an index finds the owner of an address.
The list of mounts can be edited without the index; it then has to be refreshed.
Until it is, an access still goes where the index says, with the offset from the base
that the mount has by now. Offsets count modulo `2 ^ 32`, so an address below that base
has a large one.

An access is told to the observers and counted before anything else. Then come, in
this order, a fault that was asked for, the alignment of the address, the owner of the
address, and the device.
-/

namespace BoardSim

/-- A device with its name and its place on the bus. -/
structure Mount where
  name : String
  range : AddressRange
  device : Device
deriving DecidableEq

/-- A bus with its devices and the board that they live on. -/
structure Bus where
  mounts : List Mount := []
  index : RangeIndex := .empty
  observers : List Observer := []
  policy : FaultPolicy := .abort
  /-- How many accesses are served before one faults, if a fault was asked for. -/
  faultAfter : Option Nat := none
  /-- How many accesses there were. -/
  accesses : Nat := 0
  board : Board

namespace Bus

/-- A bus without devices. -/
def fresh (policy : FaultPolicy) (board : Board) : Bus := { policy, board }

/-! ## Mounting -/

/-- The error that a conflict amounts to, with the name of the mount in the way. -/
def mountError (bus : Bus) (name : String) (range : AddressRange) :
    RangeIndex.Conflict → Failure MountError
  | .empty => .refused (.empty name range.base)
  | .overlaps slot =>
    match bus.mounts[slot]? with
    | some mount => .refused (.overlapping name range mount.name)
    | none => .broken .noSuchMount

/-- Mount a device at a range that is not empty and shares no addresses with those in
the index. -/
def mount (bus : Bus) (name : String) (range : AddressRange) (device : Device) :
    Except (Failure MountError) Bus :=
  match bus.index.insert range bus.mounts.length with
  | .ok index => .ok { bus with index, mounts := bus.mounts ++ [⟨name, range, device⟩] }
  | .error conflict => .error (bus.mountError name range conflict)

/-- Index the mounts from `slot` on, up to the first whose range is not accepted. -/
def indexFrom (bus : Bus) :
    (slot : Nat) → RangeIndex → List Mount → Except (Failure MountError) Unit × RangeIndex
  | _, index, [] => (.ok (), index)
  | slot, index, mount :: rest =>
    match index.insert mount.range slot with
    | .ok index => bus.indexFrom (slot + 1) index rest
    | .error conflict => (.error (bus.mountError mount.name mount.range conflict), index)

/-- Rebuild the index from the list of mounts. If a range is not accepted, the mounts
before it are indexed and the others are not. -/
def refresh (bus : Bus) : Except (Failure MountError) Unit × Bus :=
  let (result, index) := bus.indexFrom 0 .empty bus.mounts
  (result, { bus with index })

/-- The name of the device that owns an address. -/
def owner? (bus : Bus) (address : UInt32) : Option String :=
  match bus.index.lookup address with
  | some slot => bus.mounts[slot]?.map Mount.name
  | none => none

/-! ## Edits of the list of mounts that leave the index alone -/

/-- Append a mount. -/
def appendMount (bus : Bus) (mount : Mount) : Bus := { bus with mounts := bus.mounts ++ [mount] }

/-- Remove a mount; later ones move up. -/
def removeMount (bus : Bus) (slot : Nat) : Bus := { bus with mounts := bus.mounts.eraseIdx slot }

/-- Give a mount another range. -/
def moveMount (bus : Bus) (slot : Nat) (range : AddressRange) : Bus :=
  { bus with mounts := bus.mounts.modify slot fun mount => { mount with range } }

/-! ## Accesses -/

/-- Tell the attached observers of an access. -/
def notify (bus : Bus) (access : Access) : Bus :=
  { bus with observers := bus.observers.map (Observer.note access) }

/-- The bus after the device in a slot was replaced and the board changed. -/
def update (bus : Bus) (slot : Nat) (device : Device) (board : Board) : Bus :=
  { bus with mounts := bus.mounts.modify slot (fun mount => { mount with device }), board }

/-- Hand an access to the device that owns its address. -/
def dispatch {α : Type} (bus : Bus) (address : UInt32)
    (use : Device → Board → (offset : UInt32) → Reply (Device × Board) α) : Outcome α × Bus :=
  if address.toNat % 4 ≠ 0 then (bus.policy.onFault (.unaligned address), bus)
  else
    match bus.index.lookup address with
    | none => (bus.policy.onFault (.unmapped address), bus)
    | some slot =>
      match bus.mounts[slot]? with
      | none => (bus.policy.onFault (.unmapped address), bus)
      | some mount =>
        let reply := use mount.device bus.board (address - mount.range.base)
        (bus.policy.conclude reply.result, bus.update slot reply.state.1 reply.state.2)

/-- Serve an access, unless it is the one for which a fault was asked. -/
def access {α : Type} (bus : Bus) (request : Access)
    (use : Device → Board → (offset : UInt32) → Reply (Device × Board) α) : Outcome α × Bus :=
  let noted := { bus.notify request with accesses := bus.accesses + 1 }
  match noted.faultAfter with
  | some 0 => (noted.policy.onFault (.injected request.address), { noted with faultAfter := none })
  | some (n + 1) => { noted with faultAfter := some n }.dispatch request.address use
  | none => noted.dispatch request.address use

/-- Read the word at an address. -/
def read (bus : Bus) (address : UInt32) : Outcome UInt32 × Bus :=
  bus.access ⟨.read, address, 0⟩ Device.read

/-- Write the word at an address. -/
def write (bus : Bus) (address value : UInt32) : Outcome Unit × Bus :=
  bus.access ⟨.write, address, value⟩ fun device board offset => device.write board offset value

/-- Ask for a fault of the access that follows the next `accesses` ones. -/
def requestFault (bus : Bus) (accesses : Nat) : Bus := { bus with faultAfter := some accesses }

/-- Take back the request for a fault. -/
def cancelFault (bus : Bus) : Bus := { bus with faultAfter := none }

/-! ## Reset -/

/-- Reset the devices in the order of their mounts. -/
def resetMounts : List Mount → Board → List Mount × Board
  | [], board => ([], board)
  | mount :: rest, board =>
    let (device, board) := mount.device.reset board
    let (rest, board) := resetMounts rest board
    ({ mount with device } :: rest, board)

/-- Return every device to its state at power-up. A fault that was asked for is
dropped; the observers, the policy and the count of accesses stay. -/
def reset (bus : Bus) : Bus :=
  let (mounts, board) := resetMounts bus.mounts bus.board
  { bus with mounts, board, faultAfter := none }

/-! ## Devices by name -/

/-- The slot of the first mount with a name. -/
def slotOf? (bus : Bus) (name : String) : Option Nat :=
  bus.mounts.findIdx? fun mount => mount.name = name

/-- The first device with a name. -/
def deviceNamed? (bus : Bus) (name : String) : Option Device :=
  (bus.mounts.find? fun mount => mount.name = name).map Mount.device

/-- Replace the first device with a name. -/
def replaceNamed (bus : Bus) (name : String) (device : Device) : Bus :=
  match bus.slotOf? name with
  | some slot => bus.update slot device bus.board
  | none => bus

/-- Access a device directly at an offset: no routing, no counting, no policy. -/
def accessSlot {α : Type} (bus : Bus) (slot : Nat)
    (use : Device → Board → Reply (Device × Board) α) : Except (Failure Violation) α × Bus :=
  match bus.mounts[slot]? with
  | none => (breakOff .noSuchMount, bus)
  | some mount =>
    let reply := use mount.device bus.board
    (reply.result, bus.update slot reply.state.1 reply.state.2)

/-- Reset one device. -/
def resetSlot (bus : Bus) (slot : Nat) : Bus :=
  match bus.mounts[slot]? with
  | none => bus
  | some mount =>
    let (device, board) := mount.device.reset bus.board
    bus.update slot device board

/-! ## Recorded states -/

/-- The recorded states of all devices under their names; of two devices with one name
the later is recorded. -/
def snapshots (bus : Bus) : SortedMap String Snapshot :=
  .ofList (bus.mounts.map fun mount => (mount.name, mount.device.snapshot bus.board))

/-- The recorded states as one. -/
def snapshot (bus : Bus) : Snapshot := .record [("peripherals", .record bus.snapshots.entries)]

/-! ## Observers -/

/-- Attach an observer with an empty record. -/
def attach (bus : Bus) (record : Record) : Bus :=
  { bus with observers := bus.observers ++ [{ record }] }

/-- Detach all observers. -/
def detachAll (bus : Bus) : Bus :=
  { bus with observers := bus.observers.map fun observer => { observer with attached := false } }

/-- Empty the record of an observer. -/
def clearRecord (bus : Bus) (i : Nat) : Bus :=
  { bus with
    observers := bus.observers.modify i fun observer =>
      { observer with record := observer.record.clear } }

/-! ## Description -/

/-- A mount in one line of text. -/
def describeMount (mount : Mount) : String :=
  "PeripheralEntry \x7b name: " ++ Text.quote mount.name ++ ", base: " ++
    Text.hexWord mount.range.base.toNat ++ ", span: " ++ Text.hex mount.range.span.toNat ++ " \x7d"

/-- The bus in one line of text. -/
def describe (bus : Bus) : String :=
  "SystemBus \x7b peripherals: [" ++ String.intercalate ", " (bus.mounts.map describeMount) ++
    "], observers: " ++ toString (bus.observers.countP Observer.attached) ++ ", fault_policy: " ++
    (match bus.policy with
      | .abort => "Abort"
      | .error => "Error") ++
    ", accesses: " ++ toString bus.accesses ++ " \x7d"

end Bus

end BoardSim
