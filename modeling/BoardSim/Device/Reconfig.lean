import BoardSim.Bits
import BoardSim.Device.Violation
import BoardSim.Snapshot

/-!
# BoardSim.Device.Reconfig

The reconfiguration block, which chooses between two configuration images.

A trigger records which image would boot next and why; nothing is rebooted. After
each command the block reports busy for a set number of reads of its busy
register, and refuses commands until then.
-/

namespace BoardSim

/-- A configuration image. -/
inductive BootImage where
  /-- The image at power-up. -/
  | primary
  | secondary
deriving DecidableEq

/-- The image's name. -/
def BootImage.name : BootImage → String
  | .primary => "Cfm0"
  | .secondary => "Cfm1"

/-- The state of the block. -/
structure Reconfig where
  watchdog : UInt32 := 0
  /-- The selection register: bit 0 overwrites the pins' choice, bit 1 selects the
  image for the next trigger. -/
  selection : UInt32 := 0
  reason : UInt32 := 0
  activeImage : BootImage := .primary
  /-- How many reads report busy after a command. -/
  busyPolls : Nat
  /-- How many of them are still to come. -/
  busyRemaining : Nat := 0
  reconfigurations : Nat := 0
  watchdogResets : Nat := 0
deriving DecidableEq

namespace Reconfig

/-- The reason that a reconfiguration into the primary image leaves. -/
def primaryReason : UInt32 := 0x4000

/-- How many reads report busy where nothing else is stated. -/
def standardBusyPolls : Nat := 1

/-- The block at power-up. -/
def fresh (polls : Nat) : Reconfig where
  busyPolls := polls

/-- Does the block refuse commands? -/
def isBusy (block : Reconfig) : Bool := 0 < block.busyRemaining

/-- The image that bit 1 of the selection register names. -/
def selectedImage (block : Reconfig) : BootImage :=
  if hasBit block.selection 1 then .secondary else .primary

/-- Reconfigure into the selected image. -/
def reconfigure (block : Reconfig) : Reconfig :=
  { block with
    reason := match block.selectedImage with
      | .primary => primaryReason
      | .secondary => 0
    activeImage := block.selectedImage
    reconfigurations := block.reconfigurations + 1 }

/-- The registers of the block. -/
inductive Register where
  /-- Bit 0 triggers a reconfiguration, bit 1 resets the watchdog. -/
  | control
  | watchdog
  | selection
  | busy
  | reason
  | currentImage

/-- The register at an offset. -/
def Register.ofOffset? (offset : UInt32) : Option Register :=
  if offset = 0x00 then some .control
  else if offset = 0x04 then some .watchdog
  else if offset = 0x08 then some .selection
  else if offset = 0x0C then some .busy
  else if offset = 0x10 then some .reason
  else if offset = 0x1C then some .currentImage
  else none

/-- Read a register. A read of the busy register counts down. -/
def read (block : Reconfig) (offset : UInt32) : Reply Reconfig UInt32 :=
  match Register.ofOffset? offset with
  | some .control => .answer block 0
  | some .watchdog => .answer block block.watchdog
  | some .selection => .answer block block.selection
  | some .busy =>
    .answer { block with busyRemaining := block.busyRemaining - 1 } (if block.isBusy then 1 else 0)
  | some .reason => .answer block block.reason
  | some .currentImage => .answer block (if block.activeImage = .secondary then 1 else 0)
  | none => .decline block (.noRegister .reconfig offset)

/-- Carry out a command unless the block is busy; it is busy after it. -/
def runCommand (block : Reconfig) (register : Command) (run : Reconfig → Reconfig) :
    Reply Reconfig Unit :=
  if block.isBusy then .decline block (.commandWhileBusy register)
  else .accept (run { block with busyRemaining := block.busyPolls })

/-- The effect of a word written to the control register. -/
def controlEffect (value : UInt32) (block : Reconfig) : Reconfig :=
  let counted :=
    if hasBit value 1 then { block with watchdogResets := block.watchdogResets + 1 } else block
  if hasBit value 0 then counted.reconfigure else counted

/-- Write a register. The last three can be read only; writes to them are ignored. -/
def write (block : Reconfig) (offset value : UInt32) : Reply Reconfig Unit :=
  match Register.ofOffset? offset with
  | some .control => block.runCommand .control (controlEffect value)
  | some .watchdog => .accept { block with watchdog := value }
  | some .selection => block.runCommand .selection fun b => { b with selection := value &&& 3 }
  | some .busy | some .reason | some .currentImage => .accept block
  | none => .decline block (.noRegister .reconfig offset)

/-- The block at power-up, with the same number of busy reads. -/
def reset (block : Reconfig) : Reconfig := fresh block.busyPolls

/-- The whole state. -/
def snapshot (block : Reconfig) : Snapshot :=
  .record
    [("watchdog", .word block.watchdog),
     ("config_sel", .word block.selection),
     ("reason", .word block.reason),
     ("active_image", .text block.activeImage.name),
     ("busy_polls", .number block.busyPolls),
     ("busy_remaining", .number block.busyRemaining),
     ("reconfigurations", .number block.reconfigurations),
     ("watchdog_resets", .number block.watchdogResets)]

end Reconfig

end BoardSim
