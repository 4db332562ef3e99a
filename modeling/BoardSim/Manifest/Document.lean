import BoardSim.Manifest.Scalar

/-!
# BoardSim.Manifest.Document

The document that a manifest is written in: a mapping of scalars and further
mappings, in the subset of YAML that has no lists, anchors, tags, directives or
block scalars.

A mapping is written in lines, one entry a line at one indentation, or between
braces, with commas between the entries. A key stands on one line. A value may
be missing, which is the empty scalar.
-/

namespace BoardSim.Manifest

/-- A value in a document. -/
inductive Node where
  /-- A text, and whether it stands without quotes. -/
  | scalar (text : String) (isPlain : Bool)
  /-- Entries in the order of the document; a key may occur twice. -/
  | mapping (entries : List (String × Node))

namespace Node

/-- The value that is left out. -/
def missing : Node := .scalar "" true

/-- How many characters may precede the colon after a key, from the key's first on. -/
def maxKeyLength : Nat := 1024

/-- Read a key together with the colon after it: a scalar on one line. In lines
the colon ends a word. -/
def readKey? (flow : Bool) (indent : Nat) (here : Cursor) : Option (String × Cursor) := do
  let key ← readScalar? flow indent here
  if !key.singleLine then none
  else
    let gap := key.after.rest.takeWhile isGap
    let column := key.after.column + gap.length
    match key.after.rest.drop gap.length with
    | ':' :: rest =>
      if column ≤ here.column + maxKeyLength && (flow || atWordEnd rest) then
        some (key.text, ⟨rest, column + 1, false⟩)
      else none
    | _ => none

/-- Is the next character `c`? -/
def nextIs (c : Char) (here : Cursor) : Bool := here.rest.head? = some c

/-- The place after the next character. -/
def advance (here : Cursor) : Cursor := ⟨here.rest.drop 1, here.column + 1, false⟩

/-- The marks of a mapping between braces. -/
def openBrace : Char := Char.ofNat 0x7B

@[inherit_doc openBrace]
def closeBrace : Char := Char.ofNat 0x7D

/-- Put one more entry in front of those that were read. -/
def consEntry (key : String) (value : Node) (rest : List (String × Node) × Cursor) :
    List (String × Node) × Cursor :=
  ((key, value) :: rest.1, rest.2)

/-- The entries between braces, from after the opening one or after a comma; a
comma may stand after the last one. An entry may be a key alone, which need not end
on its line. Each entry and each value takes a unit of `fuel`. -/
def readFlowEntries? (indent : Nat) :
    (fuel : Nat) → Cursor → Option (List (String × Node) × Cursor)
  | 0, _ => none
  | fuel + 1, start =>
    let here := start.skip true
    if nextIs closeBrace here then some ([], advance here)
    else if atMarker here.column here.rest then none
    else
      let entry : Option (String × Node × Cursor) :=
        match readKey? true indent here with
        | none => do
          let key ← readScalar? true indent here
          some (key.text, missing, key.after)
        | some (key, afterKey) =>
          let value := afterKey.skip true
          if nextIs ',' value || nextIs closeBrace value then some (key, missing, value)
          else if atMarker value.column value.rest then none
          else if nextIs openBrace value then do
            let (entries, after) ← readFlowEntries? indent fuel (advance value)
            some (key, .mapping entries, after)
          else do
            let scalar ← readScalar? true indent value
            some (key, .scalar scalar.text scalar.isPlain, scalar.after)
      match entry with
      | none => none
      | some (key, value, after) =>
        let next := after.skip true
        if nextIs ',' next then
          (readFlowEntries? indent fuel (advance next)).map (consEntry key value)
        else if nextIs closeBrace next then some ([(key, value)], advance next)
        else none

mutual

/-- The entries in lines whose keys stand in column `column`, from a key on. -/
def readLines? : (fuel : Nat) → (column : Nat) → Cursor → Option (List (String × Node) × Cursor)
  | 0, _, _ => none
  | fuel + 1, column, here => do
    let (key, afterKey) ← readKey? false (column + 1) here
    let (value, after) ← readLineValue? fuel column afterKey
    let next := after.skip false
    if next.rest.isEmpty then some ([(key, value)], next)
    else if !next.fresh || column < next.column then none
    else if next.column < column || atMarker next.column next.rest then some ([(key, value)], next)
    else (readLines? fuel column next).map (consEntry key value)

/-- The value after a key in column `column`: on the same line a scalar or a
mapping between braces, on further indented lines also a mapping in lines. -/
def readLineValue? : (fuel : Nat) → (column : Nat) → Cursor → Option (Node × Cursor)
  | 0, _, _ => none
  | fuel + 1, column, afterKey =>
    let here := afterKey.skip false
    if here.rest.isEmpty || (here.fresh && here.column ≤ column) then some (missing, here)
    else if nextIs openBrace here then do
      let (entries, after) ← readFlowEntries? (column + 1) fuel (advance here)
      some (.mapping entries, after)
    else if here.fresh && (readKey? false (column + 1) here).isSome then do
      let (entries, after) ← readLines? fuel here.column here
      some (.mapping entries, after)
    else do
      let scalar ← readScalar? false (column + 1) here
      some (.scalar scalar.text scalar.isPlain, scalar.after)

end

/-- Is nothing left but white space, comments and marks of the document's end? -/
def onlyEndMarks : (fuel : Nat) → Cursor → Bool
  | 0, _ => false
  | fuel + 1, start =>
    let here := start.skip false
    here.rest.isEmpty ||
      (here.column = 0 && startsWithMarker '.' here.rest &&
        onlyEndMarks fuel ⟨here.rest.drop 3, 3, false⟩)

/-- May the character stand in a document? -/
def isDocumentChar (c : Char) : Bool :=
  c = '\t' || c = '\n' || c = '\r' || (0x20 ≤ c.toNat && c.toNat ≤ 0x7E) || c.toNat = 0x85 ||
    (0xA0 ≤ c.toNat && c.toNat ≤ 0xD7FF) || (0xE000 ≤ c.toNat && c.toNat ≤ 0xFFFD) ||
    0x10000 ≤ c.toNat

/-- The mapping that a text holds as its only document. A mark of the document's
start may precede it, after which a mapping in lines begins on a line of its own. -/
def ofText? (text : String) : Option Node := do
  if !text.toList.all isDocumentChar then none
  else
    let body := normalizeBreaks text.toList
    let fuel := 2 * body.length + 2
    let first := Cursor.skip ⟨body, 0, true⟩ false
    let start :=
      if first.column = 0 && startsWithMarker '-' first.rest then
        Cursor.skip ⟨first.rest.drop 3, 3, false⟩ false
      else first
    if start.rest.isEmpty || atMarker start.column start.rest then none
    else
      let (entries, after) ←
        if nextIs openBrace start then readFlowEntries? 0 fuel (advance start)
        else if start.fresh then readLines? fuel start.column start
        else none
      if onlyEndMarks fuel after then some (.mapping entries) else none

end Node

end BoardSim.Manifest
