/-!
# BoardSim.Size.Binary64

Non-negative numbers with the precision of a 64-bit binary floating-point value.

A value is `significand · 2 ^ exponent` with 53 significant bits and an exponent
of at least -1074. `ofRatio` rounds a quotient to the nearest such value and a
tie to the even significand, all in natural numbers, so a numeral is read with a
single rounding however long it is. A value too large for the format keeps its
magnitude here; `isNormal` tells it apart.
-/

namespace BoardSim.Size

/-- The number `significand · 2 ^ exponent`. -/
structure Binary64 where
  significand : Nat
  exponent : Int
deriving DecidableEq

namespace Binary64

/-- How many bits a significand has. -/
def precision : Nat := 53

/-- The least exponent of the format; values below it lose significant bits. -/
def minExponent : Int := -1074

/-- The zero of the format. -/
def zero : Binary64 := ⟨0, minExponent⟩

/-- `num / den` as a whole number, to the nearest, a tie to the even one. -/
def roundDiv (num den : Nat) : Nat :=
  let q := num / den
  let r := num % den
  if den < 2 * r ∨ (den = 2 * r ∧ q % 2 = 1) then q + 1 else q

/-- `num / den` divided by `2 ^ exponent`, as numerator and denominator. -/
def scaled (num den : Nat) (exponent : Int) : Nat × Nat :=
  if exponent < 0 then (num <<< exponent.natAbs, den) else (num, den <<< exponent.toNat)

/-- The exponent at which the quotient has exactly 53 bits before the point, or
the least exponent if that is greater. -/
def exponentFor (num den : Nat) : Int :=
  let guess : Int := (num.log2 : Int) - (den.log2 : Int) - (precision - 1 : Nat)
  let (n, d) := scaled num den guess
  max minExponent (if n / d < 1 <<< (precision - 1) then guess - 1 else guess)

/-- The value nearest to `num / den`, for a positive `den`. -/
def ofRatio (num den : Nat) : Binary64 :=
  if num = 0 then zero
  else
    let exponent := exponentFor num den
    let (n, d) := scaled num den exponent
    ⟨roundDiv n d, exponent⟩

/-- The value nearest to a whole number. -/
def ofNat (n : Nat) : Binary64 := ofRatio n 1

/-- The value as a quotient of whole numbers. -/
def toRatio (x : Binary64) : Nat × Nat :=
  if x.exponent < 0 then (x.significand, 1 <<< x.exponent.natAbs)
  else (x.significand <<< x.exponent.toNat, 1)

/-- The value nearest to the product. -/
def mul (x y : Binary64) : Binary64 :=
  let (a, b) := x.toRatio
  let (c, d) := y.toRatio
  ofRatio (a * c) (b * d)

/-- The whole part. -/
def floor (x : Binary64) : Nat :=
  let (a, b) := x.toRatio
  a / b

/-- Does the value have all 53 bits and a magnitude that the format reaches, that
is below `2 ^ 1024`? -/
def isNormal (x : Binary64) : Bool :=
  1 <<< (precision - 1) ≤ x.significand && x.floor < 1 <<< 1024

/-- Is it zero? -/
def isZero (x : Binary64) : Bool := x.significand = 0

end Binary64

end BoardSim.Size
