import BoardSim.Text.Printable

/-!
# BoardSim.Text.Quoted

Two written forms of a text between double quotes.

* `quote` is for people: a character that does not show, or that would be taken
  for part of the frame, is written as an escape.
* `quoteJson` is the string of the JSON format: only the quote, the backslash and
  the control characters below the space are escaped.
-/

namespace BoardSim.Text

/-- The code point of a character in base 16, without a marker. -/
private def codePoint (c : Char) : List Char := Nat.toDigits 16 c.toNat

/-- A character as it stands between the quotes of a text for people. -/
def escapeChar (c : Char) : List Char :=
  if c.toNat = 0 then ['\\', '0']
  else if c = '\t' then ['\\', 't']
  else if c = '\r' then ['\\', 'r']
  else if c = '\n' then ['\\', 'n']
  else if c.toNat = 0x22 || c = '\\' then ['\\', c]
  else if isPrintable c then [c]
  else ['\\', 'u', Char.ofNat 0x7B] ++ codePoint c ++ [Char.ofNat 0x7D]

/-- A text between double quotes, for people to read. -/
def quote (text : String) : String :=
  "\"" ++ String.ofList (text.toList.flatMap escapeChar) ++ "\""

/-- A character as it stands between the quotes of a JSON string. -/
def escapeJsonChar (c : Char) : List Char :=
  if c.toNat = 0x08 then ['\\', 'b']
  else if c = '\t' then ['\\', 't']
  else if c = '\n' then ['\\', 'n']
  else if c.toNat = 0x0C then ['\\', 'f']
  else if c = '\r' then ['\\', 'r']
  else if c.toNat = 0x22 || c = '\\' then ['\\', c]
  else if c.toNat < 0x20 then
    ['\\', 'u'] ++ List.replicate (4 - (codePoint c).length) '0' ++ codePoint c
  else [c]

/-- A text as a JSON string. -/
def quoteJson (text : String) : String :=
  "\"" ++ String.ofList (text.toList.flatMap escapeJsonChar) ++ "\""

end BoardSim.Text
