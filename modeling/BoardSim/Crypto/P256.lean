import BoardSim.Bytes

/-!
# BoardSim.Crypto.P256

The elliptic curve NIST P-256 and the verification of ECDSA signatures over it.

Field elements and scalars are natural numbers below their modulus, and points are
affine. A digest is verified as it is given, without being hashed again.
-/

namespace BoardSim.Crypto.P256

/-! ## The curve -/

/-- The prime of the field of coordinates. -/
def prime : Nat := 0xFFFFFFFF00000001000000000000000000000000FFFFFFFFFFFFFFFFFFFFFFFF

/-- The linear coefficient of the curve `y² = x³ + a·x + b`. -/
def coefficientA : Nat := 0xFFFFFFFF00000001000000000000000000000000FFFFFFFFFFFFFFFFFFFFFFFC

/-- The constant coefficient. -/
def coefficientB : Nat := 0x5AC635D8AA3A93E7B3EBBD55769886BC651D06B0CC53B0F63BCE3C3E27D2604B

/-- The order of the base point. -/
def order : Nat := 0xFFFFFFFF00000000FFFFFFFFFFFFFFFFBCE6FAADA7179E84F3B9CAC2FC632551

/-- The coordinates of the base point. -/
def baseX : Nat := 0x6B17D1F2E12C4247F8BCE6E563A440F277037D812DEB33A0F4A13945D898C296

@[inherit_doc baseX]
def baseY : Nat := 0x4FE342E2FE1A7F9B8EE7EB4A7C0F9E162BCE33576B315ECECBB6406837BF51F5

/-- The domain parameters as 32-byte numbers: the base point's coordinates, the
prime, the linear coefficient and the order. -/
def parameters : List (List UInt8) :=
  [baseX, baseY, prime, coefficientA, order].map (Bytes.ofNat 32)

/-- A point of the curve. -/
inductive Point where
  /-- The neutral element. -/
  | infinity
  | affine (x y : Nat)
deriving DecidableEq

/-- The base point. -/
def base : Point := .affine baseX baseY

/-- Do the coordinates satisfy the equation of the curve? -/
def onCurve (x y : Nat) : Bool :=
  y * y % prime = (x * x * x + coefficientA * x + coefficientB) % prime

/-! ## Arithmetic -/

/-- The bits of a 256-bit number from the highest on, folded. -/
def foldBits {α : Type} (step : α → Bool → α) (start : α) (n : Nat) : α :=
  (List.range 256).foldr (fun i acc => step acc (n.testBit i)) start

/-- A power modulo `m`, by squaring. -/
def powMod (m b n : Nat) : Nat :=
  foldBits (fun acc bit => let square := acc * acc % m; if bit then square * b % m else square) 1 n

/-- The inverse modulo a prime, as the power that Fermat's theorem gives. -/
def inverse (m a : Nat) : Nat := powMod m a (m - 2)

/-- The difference in the field. -/
def sub (a b : Nat) : Nat := (a + (prime - b % prime)) % prime

/-- The third point on the line of slope `slope` through points with the abscissae
`x₁`, `x₂`, reflected; `y₁` is the ordinate at `x₁`. -/
def lineSum (slope x₁ y₁ x₂ : Nat) : Point :=
  let x := sub (sub (slope * slope % prime) x₁) x₂
  .affine x (sub (slope * sub x₁ x % prime) y₁)

/-- The sum of a point with itself. -/
def double : Point → Point
  | .infinity => .infinity
  | .affine x y =>
    if y = 0 then .infinity
    else lineSum ((3 * x * x + coefficientA) * inverse prime (2 * y) % prime) x y x

/-- The sum of two points. -/
def add : Point → Point → Point
  | .infinity, q => q
  | p, .infinity => p
  | .affine x₁ y₁, .affine x₂ y₂ =>
    if x₁ = x₂ then if y₁ = y₂ then double (.affine x₁ y₁) else .infinity
    else lineSum (sub y₂ y₁ * inverse prime (sub x₂ x₁) % prime) x₁ y₁ x₂

/-- The `n`-fold sum of a point, for `n` below `2 ^ 256`. -/
def multiply (n : Nat) (p : Point) : Point :=
  foldBits (fun acc bit => let twice := double acc; if bit then add twice p else twice) .infinity n

/-! ## Signatures -/

/-- Is there a public key with these coordinates? They have to be reduced, and on
the curve. -/
def isPublicKey (x y : Nat) : Bool := x < prime && y < prime && onCurve x y

/-- Can the number be part of a signature? -/
def isScalar (n : Nat) : Bool := 0 < n && n < order

/-- Is `(r, s)` a signature of the digest under the public key `(x, y)`? Both forms
of `s` are accepted. -/
def verify (x y r s : Nat) (digest : List UInt8) : Bool :=
  isPublicKey x y && isScalar r && isScalar s &&
    let z := Bytes.toNat digest % order
    let w := inverse order s
    match add (multiply (z * w % order) base) (multiply (r * w % order) (.affine x y)) with
    | .infinity => false
    | .affine x _ => x % order = r

end BoardSim.Crypto.P256
