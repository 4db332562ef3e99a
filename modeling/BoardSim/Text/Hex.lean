/-!
# BoardSim.Text.Hex

Numbers written in base 16 behind the marker `0x`, in lower case.
-/

namespace BoardSim.Text

/-- `n` in base 16 behind `0x`, without leading zeros. -/
def hex (n : Nat) : String :=
  "0x" ++ String.ofList (Nat.toDigits 16 n)

/-- `n` in base 16 behind `0x`, filled up with zeros to eight digits, so that
every bus address has the same width. -/
def hexWord (n : Nat) : String :=
  let digits := Nat.toDigits 16 n
  "0x" ++ String.ofList (List.replicate (8 - digits.length) '0' ++ digits)

end BoardSim.Text
