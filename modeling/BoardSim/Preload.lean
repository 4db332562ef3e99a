import BoardSim.Device.SerialMemory
import BoardSim.FileError
import BoardSim.Flash.Image
import BoardSim.Text.Hex
import BoardSim.Text.Quoted

/-!
# BoardSim.Preload

Loading prepared content into the flash chips and the serial memory.

Content replaces what was there, without the rules of programming. It is loaded as a
whole or not at all: a load that does not fit changes nothing.
-/

namespace BoardSim

open Flash (Chip)

namespace Preload

/-- Why nothing is loaded. -/
inductive Error where
  | unreadableFile (path : String) (cause : FileError)
  /-- The bytes do not fit into an image of this size. -/
  | pastImage (count offset size : Nat)
  /-- The content of a file does not fit into a chip's image. -/
  | fileMisfit (path : String) (chip : Chip) (cause : Error)
  /-- The content of a file does not fit into the serial memory. -/
  | pastStore (path : String) (count address : Nat)
deriving DecidableEq

/-- The wording of an error. -/
def Error.message : Error → String
  | .unreadableFile path cause =>
    "Failed to read image file: " ++ Text.quote path ++ ": " ++ cause.message
  | .pastImage count offset size =>
    toString count ++ " bytes at " ++ Text.hex offset ++ " do not fit in the " ++ Text.hex size ++
      " byte image"
  | .fileMisfit path chip cause =>
    "Failed to load " ++ Text.quote path ++ " into " ++ chip.label ++ " flash: " ++ cause.message
  | .pastStore path count address =>
    "NVRAM image " ++ Text.quote path ++ " (" ++ toString count ++ " bytes at " ++
      Text.hex address ++ ") exceeds the " ++ toString SerialMemory.storeSize ++ " byte device"

/-- The content of an image file. -/
def contentOf (file : FileRead) : Except Error (List UInt8) :=
  match file.content with
  | .ok bytes => .ok bytes
  | .error cause => .error (.unreadableFile file.path cause)

/-- Load bytes into a chip from an offset on. -/
def intoFlash (flash : Flash.Pair) (chip : Chip) (offset : Nat) (bytes : List UInt8) :
    Except Error Flash.Pair :=
  match (flash.image chip).load? offset bytes with
  | some image => .ok (flash.withImage image chip)
  | none => .error (.pastImage bytes.length offset (flash.image chip).size)

/-- Load the content of a file into a chip from an offset on, and count its bytes. -/
def fileIntoFlash (flash : Flash.Pair) (chip : Chip) (offset : Nat) (file : FileRead) :
    Except Error (Nat × Flash.Pair) := do
  let bytes ← contentOf file
  let loaded ← (intoFlash flash chip offset bytes).mapError (.fileMisfit file.path chip)
  .ok (bytes.length, loaded)

/-- Load the content of a file into the serial memory from an address on, and count its
bytes. Unlike a preload it does not go around the end of the store. -/
def fileIntoMemory (memory : SerialMemory) (address : UInt16) (file : FileRead) :
    Except Error (Nat × SerialMemory) := do
  let bytes ← contentOf file
  let start := address.toNat
  if start < SerialMemory.storeSize ∧ start + bytes.length ≤ SerialMemory.storeSize then
    .ok (bytes.length, memory.preload start bytes)
  else .error (.pastStore file.path bytes.length start)

end Preload

end BoardSim
