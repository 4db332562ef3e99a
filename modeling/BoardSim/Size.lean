import BoardSim.Failure
import BoardSim.Size.Binary64
import BoardSim.Text.Blank
import BoardSim.Text.Numeric

/-!
# BoardSim.Size

Amounts of storage written as a number and a unit, such as `64MiB`.

* The number is what stands before the first character that is neither numeric
  nor a point. It has at most one point and is read with the precision of
  `Binary64`.
* The unit follows, after optional white space: `B`, or `kB` to `YB` for powers of
  1000, or `KiB` to `YiB` for powers of 1024. Letters count without their case,
  with one exception: `KB` in capitals is 1024 bytes.
* The amount is the product, rounded like the number, cut to a whole number of
  bytes and held below `2 ^ 64`.

The length of the number is counted in characters but used as a count of bytes,
so a number with characters of more than one byte is cut short, and a cut inside
a character is a defect.
-/

namespace BoardSim

namespace Size

open Text

/-- Why a text is not an amount of storage. -/
inductive Error where
  /-- Nothing but white space. -/
  | empty
  /-- The text ends where a unit is expected. -/
  | noMultiple
  /-- The text starts with something other than a number. -/
  | noValue
  /-- The number is malformed, or too large or too small to be held. -/
  | invalidValue
  /-- The unit is unknown. -/
  | invalidMultiple
deriving DecidableEq

/-- The wording of an error. -/
def Error.message (e : Error) : String :=
  "Invalid size format: " ++ match e with
    | .empty => "input is empty"
    | .noMultiple => "no multiple"
    | .noValue => "no value"
    | .invalidValue => "invalid value"
    | .invalidMultiple => "invalid multiple"

/-! ## The two parts of an amount -/

/-- Can the character stand in the number? -/
def isValueChar (c : Char) : Bool := isNumeric c || c = '.'

/-- Split `text` after `count` bytes; none if that is inside a character or past
the end. -/
def splitAtByte (count : Nat) : (text : List Char) → Option (List Char × List Char)
  | [] => if count = 0 then some ([], []) else none
  | c :: rest =>
    if count = 0 then some ([], c :: rest)
    else if c.utf8Size ≤ count then
      (splitAtByte (count - c.utf8Size) rest).map fun parts => (c :: parts.1, parts.2)
    else none

/-- Divide a text without outer white space into its number and its unit. -/
def split (text : List Char) : Except (Failure Error) (List Char × List Char) :=
  let count := (text.takeWhile isValueChar).length
  if text.isEmpty then refuse .empty
  else if count = text.length then refuse .noMultiple
  else if count = 0 then refuse .noValue
  else match splitAtByte count text with
    | none => breakOff .splitInsideCharacter
    | some parts => .ok parts

/-! ## The number -/

/-- The number that decimal digits write. -/
def digitsToNat (digits : List Char) : Nat :=
  digits.foldl (fun n c => n * 10 + (c.toNat - '0'.toNat)) 0

/-- Read a number of ASCII digits with at most one point and at least one digit,
to the nearest value. It has to be zero or a normal value. -/
def readValue? (text : List Char) : Option Binary64 :=
  let whole := text.takeWhile Char.isDigit
  let part := (text.dropWhile Char.isDigit).drop 1
  let pointed := (text.dropWhile Char.isDigit).head?.all (· = '.')
  if pointed && part.all Char.isDigit && !(whole ++ part).isEmpty then
    let value := Binary64.ofRatio (digitsToNat (whole ++ part)) (Nat.pow 10 part.length)
    if value.isZero || value.isNormal then some value else none
  else none

/-! ## The unit -/

/-- The units and their sizes in bytes, in lower case. -/
def units : List (String × Nat) :=
  [("b", 1),
   ("kb", 1000), ("mb", Nat.pow 1000 2), ("gb", Nat.pow 1000 3), ("tb", Nat.pow 1000 4),
   ("pb", Nat.pow 1000 5), ("eb", Nat.pow 1000 6), ("zb", Nat.pow 1000 7), ("yb", Nat.pow 1000 8),
   ("kib", 1024), ("mib", Nat.pow 1024 2), ("gib", Nat.pow 1024 3), ("tib", Nat.pow 1024 4),
   ("pib", Nat.pow 1024 5), ("eib", Nat.pow 1024 6), ("zib", Nat.pow 1024 7),
   ("yib", Nat.pow 1024 8)]

/-- How many bytes a unit stands for. -/
def readUnit? (text : List Char) : Option Nat :=
  let unit := trim text
  if unit = ['K', 'B'] then some 1024
  else units.lookup (String.ofList (unit.map Char.toLower))

/-! ## Amounts -/

/-- The largest amount that is told apart. -/
def maxBytes : Nat := UInt64.size - 1

/-- The number of bytes that a text states. -/
def parse (text : String) : Except (Failure Error) Nat := do
  let (number, unit) ← split (trim text.toList)
  match readValue? number with
  | none => refuse .invalidValue
  | some value =>
    match readUnit? unit with
    | none => refuse .invalidMultiple
    | some bytes => .ok (min (value.mul (Binary64.ofNat bytes)).floor maxBytes)

end Size

end BoardSim
