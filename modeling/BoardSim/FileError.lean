/-!
# BoardSim.FileError

Why a file could not be read, and the content of one that could.

Files are read by the program around this library; here a file is its path and
either its bytes or the cause of the failure.
-/

namespace BoardSim

/-- Why the content of a file is not to be had. -/
inductive FileError where
  /-- There is no such file. -/
  | notFound
  /-- Text was asked for, and the bytes are not valid UTF-8. -/
  | notText
deriving DecidableEq

/-- The wording of the cause. -/
def FileError.message : FileError → String
  | .notFound => "No such file or directory (os error 2)"
  | .notText => "stream did not contain valid UTF-8"

/-- What a look at a file gave. -/
structure FileRead where
  path : String
  content : Except FileError (List UInt8)

/-- The content as text. -/
def FileRead.text (file : FileRead) : Except FileError String :=
  match file.content with
  | .error e => .error e
  | .ok bytes =>
    match String.fromUTF8? bytes.toByteArray with
    | some text => .ok text
    | none => .error .notText

end BoardSim
