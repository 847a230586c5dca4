/-!
# Binary floating point, exactly

A finite number of the 64-bit binary format as sign, coefficient and exponent, with the rounding of
an exact quotient to the nearest such number. Everything is arithmetic on `Nat`, so results can be
computed inside a proof. A number that is too large has no representation (`none`).
-/

namespace RegionGateway

/-- The number `± coefficient · 2 ^ exponent`. The numbers that `Binary64.round` produces have
`coefficient < 2 ^ 53`, and either `2 ^ 52 ≤ coefficient` or the least exponent. -/
structure Binary64 where
  negative : Bool
  coefficient : Nat
  exponent : Int
  deriving DecidableEq

namespace Binary64

/-- The exponent of the smallest numbers. -/
def leastExponent : Int := -1074

/-- The exponent of the largest numbers. -/
def greatestExponent : Int := 971

/-- The quotient to the nearest integer, a half to the even one. -/
def divideToEven (num den : Nat) : Nat :=
  let q := num / den
  let twice := 2 * (num % den)
  if twice < den ∨ (twice = den ∧ q % 2 = 0) then q else q + 1

/-- Numerator and denominator of `num / den / 2 ^ e`. -/
def atScale (num den : Nat) (e : Int) : Nat × Nat :=
  (num * Nat.pow 2 (-e).toNat, den * Nat.pow 2 e.toNat)

/-- The number nearest to a quotient, a half to the even coefficient. -/
def round (negative : Bool) (num den : Nat) : Option Binary64 :=
  if num = 0 then some ⟨negative, 0, leastExponent⟩
  else
    let guess : Int := (num.log2 : Int) - den.log2 - 52
    let scaled := atScale num den guess
    let fitting := if scaled.1 < Nat.pow 2 52 * scaled.2 then guess - 1 else guess
    let exponent := max fitting leastExponent
    let scaled := atScale num den exponent
    let coefficient := divideToEven scaled.1 scaled.2
    let (coefficient, exponent) :=
      if coefficient = Nat.pow 2 53 then (Nat.pow 2 52, exponent + 1) else (coefficient, exponent)
    if greatestExponent < exponent then none else some ⟨negative, coefficient, exponent⟩

/-- Zero with a sign. -/
def zero (negative : Bool) : Binary64 := ⟨negative, 0, leastExponent⟩

/-- Whether the number is a zero of either sign. -/
def isZero (x : Binary64) : Bool := x.coefficient == 0

/-- Whether two numbers compare equal: a zero equals the zero of the other sign. -/
def same (x y : Binary64) : Bool := x == y || (x.isZero && y.isZero)

/-- Numerator of the magnitude. -/
def num (x : Binary64) : Nat := x.coefficient * Nat.pow 2 x.exponent.toNat

/-- Denominator of the magnitude. -/
def den (x : Binary64) : Nat := Nat.pow 2 (-x.exponent).toNat

/-- The rounded product of two magnitudes, with the sign of the first. -/
def mul (x y : Binary64) : Option Binary64 := round x.negative (x.num * y.num) (x.den * y.den)

/-- The rounded quotient of two magnitudes, with the sign of the first. -/
def div (x y : Binary64) : Option Binary64 := round x.negative (x.num * y.den) (x.den * y.num)

/-- The power of ten nearest to `10 ^ k`, for the exponents at which there is one. -/
def powerOfTen (k : Nat) : Binary64 := (round false (Nat.pow 10 k) 1).getD (zero false)

/-- The greatest power of ten in range. -/
def greatestPower : Nat := 308

/-- The number read from a decimal `± significand · 10 ^ exponent`. The significand is rounded
first, then multiplied or divided by a rounded power of ten; below the smallest power of ten the
division is done in two steps. -/
def ofDecimal (negative : Bool) (significand : Nat) (exponent : Int) : Option Binary64 := do
  let whole ← round negative significand 1
  if whole.isZero then return whole
  let size := exponent.natAbs
  if 0 ≤ exponent then
    if size ≤ greatestPower then whole.mul (powerOfTen size) else none
  else if size ≤ greatestPower then whole.div (powerOfTen size)
  else if size ≤ 2 * greatestPower then
    (← whole.div (powerOfTen greatestPower)).div (powerOfTen (size - greatestPower))
  else return zero negative

end Binary64

end RegionGateway
