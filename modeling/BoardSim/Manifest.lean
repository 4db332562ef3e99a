import BoardSim.FaultPolicy
import BoardSim.FileError
import BoardSim.Flash.Chip
import BoardSim.Manifest.Document
import BoardSim.Size
import BoardSim.Text.Quoted

/-!
# BoardSim.Manifest

The description of a board: what is fixed before it is powered up.

A manifest comes from a document (`ofText`), from a file (`ofFile`) or from
stated fields. `validate` says which manifests are acceptable; a manifest that was
read is acceptable. Fields that a document leaves out have a standard value, the
name alone is required.
-/

namespace BoardSim

open Flash (Chip)

/-- The description of a board. -/
structure Manifest where
  schemaVersion : String := "1.0"
  name : String := "pfr-platform"
  /-- Where there is none, the environment decides. -/
  faultPolicy : Option FaultPolicy := none
  /-- The size of the management controller's flash, as an amount of storage. -/
  bmcSize : String := "64MiB"
  /-- The size of the platform hub's flash. -/
  pchSize : String := "64MiB"
  /-- How many status reads a finished session of the crypto block takes to show. -/
  doneLatency : UInt32 := 10
  /-- The tick of the timers, in milliseconds. -/
  tickMillis : UInt64 := 20
  /-- How many reads of the busy register follow a reconfiguration command. -/
  busyPolls : UInt32 := 1

namespace Manifest

/-- The size of a chip's flash, as an amount of storage. -/
def sizeText (manifest : Manifest) : Chip → String
  | .bmc => manifest.bmcSize
  | .pch => manifest.pchSize

/-- The size of a chip's flash in bytes. -/
def flashBytes (manifest : Manifest) (chip : Chip) : Except (Failure Size.Error) Nat :=
  Size.parse (manifest.sizeText chip)

/-- The stated policy, or that of the environment where none is stated. -/
def resolvedPolicy (manifest : Manifest) (environment : Option String) : FaultPolicy :=
  manifest.faultPolicy.getD (FaultPolicy.ofEnvironment environment)

/-! ## What can be wrong with a manifest -/

/-- Why a manifest is not accepted. -/
inductive Error where
  /-- The file could not be read. -/
  | unreadableFile (path : String) (cause : FileError)
  /-- The text is not a document with the fields of a manifest. -/
  | notManifest
  | unsupportedSchema (version : String)
  | unreadableSize (chip : Chip) (cause : Size.Error)
  | unevenSize (chip : Chip) (bytes : Nat)
  | excessiveSize (chip : Chip) (bytes : Nat)
  | zeroTick
deriving DecidableEq

/-- The largest image that the flash window shows. -/
def maxFlashBytes : Nat := 64 * 1024 * 1024

/-- A flash size is a multiple of this many bytes. -/
def flashGranule : Nat := 64 * 1024

/-- The name of a chip's size in a document. -/
def sizeField (chip : Chip) : String := "flash." ++ chip.name ++ "_size"

/-- The wording of an error. -/
def Error.message : Error → String
  | .unreadableFile path cause =>
    "Failed to read platform manifest at " ++ Text.quote path ++ ": " ++ cause.message
  | .notManifest => "Failed to parse Platform Manifest YAML"
  | .unsupportedSchema version =>
    "Unsupported schema_version '" ++ version ++ "'. Supported versions: '1.0'"
  | .unreadableSize chip cause => "Invalid '" ++ sizeField chip ++ "': " ++ cause.message
  | .unevenSize chip bytes =>
    "'" ++ sizeField chip ++ "' must be a non-zero multiple of 64KiB, got " ++ toString bytes ++
      " bytes"
  | .excessiveSize chip bytes =>
    "'" ++ sizeField chip ++ "' exceeds the " ++ toString maxFlashBytes ++
      " byte flash window, got " ++ toString bytes ++ " bytes"
  | .zeroTick => "'timer.tick_ms' must be greater than zero"

/-! ## Acceptable manifests -/

/-- Check a chip's flash size. -/
def validateSize (manifest : Manifest) (chip : Chip) : Except (Failure Error) Unit := do
  let bytes ← (manifest.flashBytes chip).mapError (Failure.mapCause (.unreadableSize chip))
  if bytes = 0 ∨ bytes % flashGranule ≠ 0 then refuse (.unevenSize chip bytes)
  else if maxFlashBytes < bytes then refuse (.excessiveSize chip bytes)
  else .ok ()

/-- Check the schema version, both flash sizes and the tick, in this order. -/
def validate (manifest : Manifest) : Except (Failure Error) Unit :=
  if manifest.schemaVersion ≠ "1.0" then refuse (.unsupportedSchema manifest.schemaVersion)
  else do
    manifest.validateSize .bmc
    manifest.validateSize .pch
    if manifest.tickMillis = 0 then refuse .zeroTick
    else .ok ()

/-! ## Reading a document -/

/-- The text of a scalar, in whichever notation. -/
def textOf? : Node → Option String
  | .scalar text _ => some text
  | .mapping _ => none

/-- The number that digits of this base write; none without digits. -/
def readDigits? (base : Nat) (digits : List Char) : Option Nat :=
  if digits.isEmpty then none
  else digits.foldlM (fun n c =>
    match hexDigit? c with
    | some d => if d < base then some (n * base + d) else none
    | none => none) 0

/-- Read a whole number: decimal without leading zeros, or behind `0x`, `0o` or
`0b` in base 16, 8 or 2; a plus sign may precede it. -/
def readNumber? (text : List Char) : Option Nat :=
  match (if text.head? = some '+' then text.drop 1 else text) with
  | '0' :: 'x' :: digits => readDigits? 16 digits
  | '0' :: 'o' :: digits => readDigits? 8 digits
  | '0' :: 'b' :: digits => readDigits? 2 digits
  | '0' :: _ :: _ => none
  | digits => readDigits? 10 digits

/-- The number of at most `max` that a scalar without quotes writes. -/
def numberOf? (max : Nat) : Node → Option Nat
  | .scalar text true =>
    match readNumber? text.toList with
    | some n => if n ≤ max then some n else none
    | none => none
  | _ => none

/-- The policy that a scalar names; one without quotes can also say that there is
none. -/
def policyOf? : Node → Option (Option FaultPolicy)
  | .mapping _ => none
  | .scalar text isPlain =>
    if isPlain && ["", "~", "null", "Null", "NULL"].contains text then some none
    else match text with
      | "abort" => some (some .abort)
      | "error" | "raise" | "catch" => some (some .error)
      | _ => none

/-- The entries of a section: of a mapping, or none where the value is missing. -/
def sectionOf? : Node → Option (List (String × Node))
  | .mapping entries => some entries
  | .scalar "" true => some []
  | .scalar _ _ => none

/-- Do the entries have only these keys, and each at most once? -/
def wellKeyed (keys : List String) (entries : List (String × Node)) : Bool :=
  (entries.all fun entry => keys.contains entry.1) && (entries.map Prod.fst).Nodup

/-- Read the entry under `key`, or take the standard value if there is none. -/
def field? {α : Type} (entries : List (String × Node)) (key : String) (standard : α)
    (read : Node → Option α) : Option α :=
  match entries.lookup key with
  | none => some standard
  | some node => read node

/-- The entries of the section under `key`, which has only the given keys. -/
def section? (entries : List (String × Node)) (key : String) (keys : List String) :
    Option (List (String × Node)) := do
  let inner ← field? entries key [] sectionOf?
  if wellKeyed keys inner then some inner else none

/-- The manifest that a document describes. Keys that a manifest does not have,
keys given twice and values of another kind are turned down. -/
def ofNode? (document : Node) : Option Manifest := do
  let entries ← sectionOf? document
  let keys := ["schema_version", "name", "fault_policy", "flash", "crypto", "timer", "dual_config"]
  if !wellKeyed keys entries then none
  else
    let standard : Manifest := {}
    let name ← entries.lookup "name" >>= textOf?
    let schemaVersion ← field? entries "schema_version" standard.schemaVersion textOf?
    let faultPolicy ← field? entries "fault_policy" none policyOf?
    let flash ← section? entries "flash" ["bmc_size", "pch_size"]
    let bmcSize ← field? flash "bmc_size" standard.bmcSize textOf?
    let pchSize ← field? flash "pch_size" standard.pchSize textOf?
    let crypto ← section? entries "crypto" ["done_latency_reads"]
    let doneLatency ← field? crypto "done_latency_reads" standard.doneLatency.toNat
      (numberOf? (UInt32.size - 1))
    let timer ← section? entries "timer" ["tick_ms"]
    let tickMillis ← field? timer "tick_ms" standard.tickMillis.toNat (numberOf? (UInt64.size - 1))
    let reconfig ← section? entries "dual_config" ["busy_polls"]
    let busyPolls ← field? reconfig "busy_polls" standard.busyPolls.toNat
      (numberOf? (UInt32.size - 1))
    some {
      schemaVersion, name, faultPolicy, bmcSize, pchSize
      doneLatency := UInt32.ofNat doneLatency
      tickMillis := UInt64.ofNat tickMillis
      busyPolls := UInt32.ofNat busyPolls }

/-- The acceptable manifest that a text describes. -/
def ofText (text : String) : Except (Failure Error) Manifest :=
  match Node.ofText? text >>= ofNode? with
  | none => refuse .notManifest
  | some manifest => do
    manifest.validate
    .ok manifest

/-- The acceptable manifest that a file describes. -/
def ofFile (file : FileRead) : Except (Failure Error) Manifest :=
  match file.text with
  | .error cause => refuse (.unreadableFile file.path cause)
  | .ok text => ofText text

end Manifest

end BoardSim
