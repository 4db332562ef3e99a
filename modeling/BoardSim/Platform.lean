import BoardSim.Bus
import BoardSim.Manifest

/-!
# BoardSim.Platform

The standard board: ten devices at a fixed memory map, set up by a manifest.

Settings that are stated beside the manifest take its place.
-/

namespace BoardSim

namespace Platform

/-! ## The memory map -/

/-- The names of the standard devices. -/
def pinsName : String := "gpio"

@[inherit_doc pinsName]
def timersName : String := "timer_bank"

@[inherit_doc pinsName]
def reconfigName : String := "dual_config"

@[inherit_doc pinsName]
def cryptoName : String := "crypto"

@[inherit_doc pinsName]
def serialMemoryName : String := "rfnvram"

@[inherit_doc pinsName]
def flashControllerName : String := "spi_controller"

@[inherit_doc pinsName]
def mailboxName : String := "mailbox"

@[inherit_doc pinsName]
def bmcPageMapName : String := "bmc_we"

@[inherit_doc pinsName]
def pchPageMapName : String := "pch_we"

@[inherit_doc pinsName]
def flashWindowName : String := "flash_window"

/-- The address range of a chip's map of writable pages. It has a bit for each page of
the largest image. -/
def pageMapRange : Flash.Chip → AddressRange
  | .bmc => ⟨0x3000, 0x800⟩
  | .pch => ⟨0x3800, 0x800⟩

/-- The address range in which the selected flash chip shows. -/
def flashWindowRange : AddressRange := ⟨0x04000000, 0x04000000⟩

/-- The memory map: the standard devices' names and address ranges. -/
def memoryMap : List (String × AddressRange) :=
  [(pinsName, ⟨0x1000, 0x10⟩),
   (timersName, ⟨0x1100, 0x10⟩),
   (reconfigName, ⟨0x1200, 0x20⟩),
   (cryptoName, ⟨0x1300, 0x40⟩),
   (serialMemoryName, ⟨0x1400, 0x40⟩),
   (flashControllerName, ⟨0x1500, 0x40⟩),
   (mailboxName, ⟨0x2000, 0x400⟩),
   (bmcPageMapName, pageMapRange .bmc),
   (pchPageMapName, pageMapRange .pch),
   (flashWindowName, flashWindowRange)]

/-- The standard devices at power-up, in the order of the memory map. -/
def devices (manifest : Manifest) : List Device :=
  [.pins,
   .timers (.fresh (manifest.tickMillis.toNat * Timers.nanosPerMilli)),
   .reconfig (.fresh manifest.busyPolls.toNat),
   .cryptoBlock (.fresh manifest.doneLatency.toNat),
   .serialMemory .fresh,
   .flashController .fresh,
   .mailbox .fresh,
   .pageMap (.fresh .bmc (pageMapRange .bmc).span),
   .pageMap (.fresh .pch (pageMapRange .pch).span),
   .flashWindow]

/-! ## Building -/

/-- What a board is built from. -/
structure Plan where
  manifest : Manifest := {}
  /-- The fault policy, in place of the manifest's. -/
  policy : Option FaultPolicy := none
  /-- The sizes of the management controller's and of the platform hub's flash in
  bytes, in place of the manifest's. -/
  flashSizes : Option (Nat × Nat) := none

/-- Why a board is not built. -/
inductive Error where
  | manifest (cause : Manifest.Error)
  | size (cause : Size.Error)
  /-- An image is larger than the window in which it is to show. -/
  | excessiveImages (bmcSize pchSize : Nat)
  | mount (cause : MountError)
deriving DecidableEq

/-- The wording of an error. -/
def Error.message : Error → String
  | .manifest cause => cause.message
  | .size cause => cause.message
  | .excessiveImages bmcSize pchSize =>
    "flash images (" ++ Text.hex bmcSize ++ ", " ++ Text.hex pchSize ++ " bytes) exceed the " ++
      Text.hex flashWindowRange.span.toNat ++ " byte flash window"
  | .mount cause => cause.message

/-- The sizes of the two flash images. -/
def Plan.imageSizes (plan : Plan) : Except (Failure Error) (Nat × Nat) :=
  match plan.flashSizes with
  | some sizes => .ok sizes
  | none => do
    let bmc ← (plan.manifest.flashBytes .bmc).mapError (Failure.mapCause .size)
    let pch ← (plan.manifest.flashBytes .pch).mapError (Failure.mapCause .size)
    .ok (bmc, pch)

/-- The policy of the board, with the environment's where none is stated. -/
def Plan.resolvedPolicy (plan : Plan) (environment : Option String) : FaultPolicy :=
  plan.policy.getD (plan.manifest.resolvedPolicy environment)

/-- Mount devices one after the other. -/
def mountAll (bus : Bus) (mounts : List Mount) : Except (Failure MountError) Bus :=
  mounts.foldlM (fun bus mount => bus.mount mount.name mount.range mount.device) bus

/-- The standard mounts. -/
def mounts (manifest : Manifest) : List Mount :=
  List.zipWith (fun place device => ⟨place.1, place.2, device⟩) memoryMap (devices manifest)

/-- Build the standard board. -/
def Plan.build (plan : Plan) (environment : Option String) : Except (Failure Error) Bus := do
  let (bmcSize, pchSize) ← plan.imageSizes
  let window := flashWindowRange.span.toNat
  if window < bmcSize ∨ window < pchSize then refuse (.excessiveImages bmcSize pchSize)
  else
    let bus := Bus.fresh (plan.resolvedPolicy environment) (Board.fresh bmcSize pchSize)
    (mountAll bus (mounts plan.manifest)).mapError (Failure.mapCause .mount)

/-- Build the board that a file describes, or the standard one where no file is given. -/
def buildFrom (file : Option FileRead) (environment : Option String) :
    Except (Failure Error) Bus :=
  match file with
  | none => Plan.build {} environment
  | some file => do
    let manifest ← (Manifest.ofFile file).mapError (Failure.mapCause .manifest)
    Plan.build { manifest } environment

end Platform

end BoardSim
