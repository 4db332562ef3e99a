/-!
# BoardSim.Manifest.Scalar

The scalars of a manifest document and the place in the text where each ends.

The text is read by a `Cursor`, which knows its column and whether something
other than white space already stands on its line. A scalar is read into
*pieces* first: characters, white space within a line and line ends. `fold` then
joins the lines: white space around a line end is dropped, a single line end
becomes a space, and each further one becomes a line break.
-/

namespace BoardSim.Manifest

/-! ## The text and its lines -/

/-- A place in the text. -/
structure Cursor where
  /-- What follows. -/
  rest : List Char
  /-- How many characters of the line precede. -/
  column : Nat
  /-- Whether these are white space alone, so that a new entry may begin here. -/
  fresh : Bool

/-- Does the character end a line? Carriage returns are gone when this is asked. -/
def isBreak (c : Char) : Bool := c = '\n' || c.toNat = 0x2028 || c.toNat = 0x2029

/-- Is the character white space within a line? -/
def isGap (c : Char) : Bool := c = ' ' || c = '\t'

/-- Does a word end before `text`? -/
def atWordEnd : List Char → Bool
  | [] => true
  | c :: _ => isGap c || isBreak c

/-- Does `text`, at the start of a line, begin with the given document marker? -/
def startsWithMarker (mark : Char) : List Char → Bool
  | a :: b :: c :: rest => a = mark && b = mark && c = mark && atWordEnd rest
  | _ => false

/-- Does a line that marks the start or the end of a document begin here? -/
def atMarker (column : Nat) (text : List Char) : Bool :=
  column = 0 && (startsWithMarker '-' text || startsWithMarker '.' text)

/-- Write every end of a line as one line feed. -/
def normalizeBreaks : List Char → List Char
  | [] => []
  | '\r' :: '\n' :: rest => '\n' :: normalizeBreaks rest
  | c :: rest => (if c = '\r' || c.toNat = 0x85 then '\n' else c) :: normalizeBreaks rest

/-- Skip white space, line ends and comments. A tab counts as white space only
where no new entry may begin, or inside braces (`flow`); a byte order mark counts as
white space at the start of a line. -/
def skipGap (flow : Bool) : (comment : Bool) → List Char → Nat → Bool → Cursor
  | _, [], column, fresh => ⟨[], column, fresh⟩
  | comment, c :: rest, column, fresh =>
    if isBreak c then skipGap flow false rest 0 true
    else if comment || c = '#' then skipGap flow true rest (column + 1) fresh
    else if c = ' ' || (c = '\t' && (flow || !fresh)) || (c.toNat = 0xFEFF && column = 0) then
      skipGap flow false rest (column + 1) fresh
    else ⟨c :: rest, column, fresh⟩

/-- The place after the white space, line ends and comments that begin here. -/
def Cursor.skip (here : Cursor) (flow : Bool) : Cursor :=
  skipGap flow false here.rest here.column here.fresh

/-! ## Pieces -/

/-- One element of a scalar as it stands in the text. -/
inductive Piece where
  /-- A character that stands for itself, also one written as an escape. -/
  | char (c : Char)
  /-- White space within a line. -/
  | gap (c : Char)
  /-- The end of a line. -/
  | lineEnd (c : Char)
  /-- The end of a line that a backslash takes out of the text. -/
  | joinedLine

/-- Is it the end of a line? -/
def Piece.endsLine : Piece → Bool
  | .lineEnd _ | .joinedLine => true
  | _ => false

/-- White space and line ends that are not yet known to stand inside the scalar. -/
structure Pending where
  /-- White space since the last character, on the same line. -/
  gap : List Char := []
  /-- The first line end since then: none, or its text, which is empty where a
  backslash takes it out. -/
  first : Option (List Char) := none
  /-- The line ends after that. -/
  others : List Char := []

/-- What the pending white space amounts to. -/
def Pending.text (p : Pending) : List Char :=
  match p.first with
  | none => p.gap
  | some ['\n'] => if p.others.isEmpty then [' '] else p.others
  | some first => first ++ p.others

/-- One more white space character within a line. -/
def Pending.addGap (p : Pending) (c : Char) : Pending :=
  if p.first.isSome then p else { p with gap := p.gap ++ [c] }

/-- One more line end. -/
def Pending.addLineEnd (p : Pending) (c : Char) : Pending :=
  if p.first.isSome then { p with others := p.others ++ [c] } else { first := some [c] }

/-- The text that the pieces write, lines joined. White space at the end counts
only if `keepEnd`. -/
def foldPieces (keepEnd : Bool) : Pending → List Piece → List Char
  | pending, [] => if keepEnd then pending.text else []
  | pending, .char c :: rest => pending.text ++ c :: foldPieces keepEnd {} rest
  | pending, .gap c :: rest => foldPieces keepEnd (pending.addGap c) rest
  | pending, .lineEnd c :: rest => foldPieces keepEnd (pending.addLineEnd c) rest
  | pending, .joinedLine :: rest => pending.text ++ foldPieces keepEnd { first := some [] } rest

/-! ## The three notations -/

/-- A scalar: its text, whether it stands without quotes, whether it stands on one
line, and the place after it. -/
structure Scalar where
  text : String
  isPlain : Bool
  singleLine : Bool
  after : Cursor

/-- The scalar that pieces up to `after` write. -/
def Scalar.ofPieces (isPlain : Bool) (pieces : List Piece) (after : Cursor) : Scalar where
  text := String.ofList (foldPieces (!isPlain) {} pieces)
  isPlain := isPlain
  singleLine := !pieces.any Piece.endsLine
  after := after

/-- The pieces between single quotes, where a quote is written twice. -/
def singlePieces : (afterQuote : Bool) → List Char → Nat → Option (List Piece × Cursor)
  | true, [], column => some ([], ⟨[], column, false⟩)
  | false, [], _ => none
  | true, c :: rest, column =>
    if c.toNat = 0x27 then
      (singlePieces false rest (column + 1)).map fun r => (.char c :: r.1, r.2)
    else some ([], ⟨c :: rest, column, false⟩)
  | false, c :: rest, column =>
    if atMarker column (c :: rest) then none
    else if c.toNat = 0x27 then singlePieces true rest (column + 1)
    else if isBreak c then (singlePieces false rest 0).map fun r => (.lineEnd c :: r.1, r.2)
    else if isGap c then (singlePieces false rest (column + 1)).map fun r => (.gap c :: r.1, r.2)
    else (singlePieces false rest (column + 1)).map fun r => (.char c :: r.1, r.2)

/-- How far an escape between double quotes has been read. -/
inductive Escape where
  | none
  /-- The backslash. -/
  | begun
  /-- Some base-16 digits, with so many left and this value so far. -/
  | digits (left : Nat) (value : Nat)

/-- The character that a letter after the backslash stands for. -/
def escapedChar? (c : Char) : Option Char :=
  match c with
  | '0' => some (Char.ofNat 0x00)
  | 'a' => some (Char.ofNat 0x07)
  | 'b' => some (Char.ofNat 0x08)
  | 't' | '\t' => some '\t'
  | 'n' => some '\n'
  | 'v' => some (Char.ofNat 0x0B)
  | 'f' => some (Char.ofNat 0x0C)
  | 'r' => some '\r'
  | 'e' => some (Char.ofNat 0x1B)
  | ' ' => some ' '
  | '/' => some '/'
  | '\\' => some '\\'
  | 'N' => some (Char.ofNat 0x85)
  | '_' => some (Char.ofNat 0xA0)
  | 'L' => some (Char.ofNat 0x2028)
  | 'P' => some (Char.ofNat 0x2029)
  | c => if c.toNat = 0x22 then some c else Option.none

/-- How many base-16 digits follow the backslash and this letter. -/
def escapeWidth? : Char → Option Nat
  | 'x' => some 2
  | 'u' => some 4
  | 'U' => some 8
  | _ => Option.none

/-- The value of a digit in base 16. -/
def hexDigit? (c : Char) : Option Nat :=
  if '0' ≤ c ∧ c ≤ '9' then some (c.toNat - '0'.toNat)
  else if 'a' ≤ c ∧ c ≤ 'f' then some (c.toNat - 'a'.toNat + 10)
  else if 'A' ≤ c ∧ c ≤ 'F' then some (c.toNat - 'A'.toNat + 10)
  else Option.none

/-- The character with this code point, if there is one. -/
def charOfCode? (n : Nat) : Option Char :=
  if h : n.isValidChar then some (Char.ofNatAux n h) else Option.none

/-- The pieces between double quotes, where a backslash begins an escape. -/
def doublePieces : Escape → List Char → Nat → Option (List Piece × Cursor)
  | _, [], _ => Option.none
  | .none, c :: rest, column =>
    if atMarker column (c :: rest) then Option.none
    else if c.toNat = 0x22 then some ([], ⟨rest, column + 1, false⟩)
    else if c = '\\' then doublePieces .begun rest (column + 1)
    else if isBreak c then (doublePieces .none rest 0).map fun r => (.lineEnd c :: r.1, r.2)
    else if isGap c then
      (doublePieces .none rest (column + 1)).map fun r => (.gap c :: r.1, r.2)
    else (doublePieces .none rest (column + 1)).map fun r => (.char c :: r.1, r.2)
  | .begun, c :: rest, column =>
    if isBreak c then (doublePieces .none rest 0).map fun r => (.joinedLine :: r.1, r.2)
    else match escapeWidth? c with
      | some width => doublePieces (.digits width 0) rest (column + 1)
      | Option.none => do
        let written ← escapedChar? c
        let (pieces, after) ← doublePieces .none rest (column + 1)
        some (.char written :: pieces, after)
  | .digits left value, c :: rest, column => do
    let digit ← hexDigit? c
    if left ≤ 1 then
      let written ← charOfCode? (value * 16 + digit)
      let (pieces, after) ← doublePieces .none rest (column + 1)
      some (.char written :: pieces, after)
    else doublePieces (.digits (left - 1) (value * 16 + digit)) rest (column + 1)

/-- Is the character one of the braces, brackets and commas that structure a
document inside braces? -/
def isFlowMark (c : Char) : Bool :=
  c = ',' || c = '[' || c = ']' || c.toNat = 0x7B || c.toNat = 0x7D

/-- Can a scalar without quotes begin with this text? -/
def startsPlain (flow : Bool) : List Char → Bool
  | [] => false
  | c :: rest =>
    if c = '-' then !atWordEnd rest
    else if c = '?' || c = ':' then !flow && !atWordEnd rest
    else
      !(isGap c || isBreak c || isFlowMark c ||
        c = '#' || c = '&' || c = '*' || c = '!' || c = '|' ||
        c = '>' || c.toNat = 0x27 || c.toNat = 0x22 || c = '%' || c = '@' || c.toNat = 0x60)

/-- The pieces of a scalar without quotes, whose further lines are indented by at
least `indent` columns. It ends before a colon that ends a word, before a
comment, and inside braces before a mark of their structure. `inWord` says
whether a word is being read, `broken` whether a line end was met since the last
one. -/
def plainPieces (flow : Bool) (indent : Nat) :
    (inWord broken : Bool) → List Char → Nat → Option (List Piece × Cursor)
  | inWord, broken, [], column => some ([], ⟨[], column, !inWord && broken⟩)
  | inWord, broken, c :: rest, column =>
    let stop : Option (List Piece × Cursor) :=
      some ([], ⟨c :: rest, column, !inWord && broken⟩)
    if isBreak c then
      (plainPieces flow indent false true rest 0).map fun r => (.lineEnd c :: r.1, r.2)
    else if isGap c then
      if c = '\t' && broken && !inWord && column < indent then Option.none
      else
        (plainPieces flow indent false broken rest (column + 1)).map fun r => (.gap c :: r.1, r.2)
    else if !inWord && broken && !flow && column < indent then stop
    else if !inWord && (atMarker column (c :: rest) || c = '#') then stop
    else if flow && c = ':' && rest.head?.any (fun d => isFlowMark d || d = '?') then Option.none
    else if c = ':' && atWordEnd rest then stop
    else if flow && isFlowMark c then stop
    else (plainPieces flow indent true false rest (column + 1)).map fun r => (.char c :: r.1, r.2)

/-- The scalar that begins here, in whichever notation. Further lines of one
without quotes are indented by at least `indent` columns. -/
def readScalar? (flow : Bool) (indent : Nat) (here : Cursor) : Option Scalar :=
  match here.rest with
  | [] => Option.none
  | c :: rest =>
    if c.toNat = 0x22 then
      (doublePieces .none rest (here.column + 1)).map fun r => .ofPieces false r.1 r.2
    else if c.toNat = 0x27 then
      (singlePieces false rest (here.column + 1)).map fun r => .ofPieces false r.1 r.2
    else if startsPlain flow (c :: rest) then
      (plainPieces flow indent true false (c :: rest) here.column).map fun r =>
        .ofPieces true r.1 r.2
    else Option.none

end BoardSim.Manifest
