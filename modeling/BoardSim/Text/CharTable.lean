/-!
# BoardSim.Text.CharTable

A property of characters given as ranges of code points, which is how Unicode
publishes its properties.
-/

namespace BoardSim.Text

/-- A set of characters as closed ranges of code points, in ascending order. -/
abbrev CharTable := List (Nat × Nat)

/-- Is the character in one of the table's ranges? -/
def CharTable.contains (table : CharTable) (c : Char) : Bool :=
  table.any fun range => range.1 ≤ c.toNat && c.toNat ≤ range.2

end BoardSim.Text
