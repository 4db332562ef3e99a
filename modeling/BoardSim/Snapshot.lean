import BoardSim.Text.Quoted

/-!
# BoardSim.Snapshot

The recorded state of a device: a tree of numbers, texts, lists and records, and
its printed form.

The printed form is JSON over several lines. The fields of a record come in the
order of their names as texts, whatever order the record has, so equal states
print alike.
-/

namespace BoardSim

/-- A recorded state. -/
inductive Snapshot where
  /-- Nothing is recorded. -/
  | nothing
  | flag (value : Bool)
  | number (value : Nat)
  | text (value : String)
  | list (items : List Snapshot)
  | record (fields : List (String × Snapshot))

namespace Snapshot

/-- A word as a number. -/
def word (value : UInt32) : Snapshot := .number value.toNat

/-- Bytes as a list of numbers. -/
def bytes (values : List UInt8) : Snapshot := .list (values.map fun b => .number b.toNat)

/-! ## Printing -/

/-- A line break followed by the indentation of a level. -/
private def lineBreak (level : Nat) : String :=
  "\n" ++ String.ofList (List.replicate (2 * level) ' ')

/-- Printed items between two marks, one a line, indented below `level`. -/
private def block (first last : String) (level : Nat) (items : List String) : String :=
  if items.isEmpty then first ++ last
  else
    first ++ String.intercalate "," (items.map (lineBreak (level + 1) ++ ·)) ++
      lineBreak level ++ last

/-- Printed fields in the order of their names. -/
private def sortFields (fields : List (String × String)) : List (String × String) :=
  fields.mergeSort fun a b => !(b.1 < a.1)

mutual

/-- The printed form of a state that stands at an indentation level. -/
def render (level : Nat) : Snapshot → String
  | .nothing => "null"
  | .flag value => if value then "true" else "false"
  | .number value => toString value
  | .text value => Text.quoteJson value
  | .list items => block "[" "]" level (renderItems level items)
  | .record fields =>
    block "\x7b" "\x7d" level
      ((sortFields (renderFields level fields)).map fun f => Text.quoteJson f.1 ++ ": " ++ f.2)

/-- The printed items of a list. -/
def renderItems (level : Nat) : List Snapshot → List String
  | [] => []
  | item :: rest => render (level + 1) item :: renderItems level rest

/-- The printed fields of a record, each with its name. -/
def renderFields (level : Nat) : List (String × Snapshot) → List (String × String)
  | [] => []
  | (name, value) :: rest => (name, render (level + 1) value) :: renderFields level rest

end

/-- The printed form of a state. -/
def pretty (snapshot : Snapshot) : String := render 0 snapshot

end Snapshot

end BoardSim
