import RegionGateway.Number.Binary64

/-!
# Decimal text of numbers

`Binary64.shortest` finds the decimal with the fewest digits that reads back as the number, and of
those the nearest one. It tries one digit, two digits and so on; at each length only the two
neighbours of the number on the decimal grid can qualify. `Binary64.text` writes that decimal,
positional for decimal exponents from -5 to 15.
-/

namespace RegionGateway

/-- Decimal digits of a natural number. -/
def decimal (n : Nat) : List Char := Nat.toDigits 10 n

/-- Decimal text of an integer. -/
def decimalInt (i : Int) : List Char := if i < 0 then '-' :: decimal i.natAbs else decimal i.natAbs

namespace Binary64

/-- Whether `num / den` is at least `10 ^ k`. -/
def atLeastPower (num den : Nat) (k : Int) : Bool :=
  den * Nat.pow 10 k.toNat ≤ num * Nat.pow 10 (-k).toNat

/-- The exponent of the first decimal digit of a magnitude other than zero. -/
def decimalExponent (x : Binary64) : Int :=
  let guess := (x.exponent + x.coefficient.log2) * 30103 / 100000
  if atLeastPower x.num x.den (guess + 1) then guess + 1
  else if atLeastPower x.num x.den guess then guess
  else guess - 1

/-- Whether the decimal `d · 10 ^ k` reads back as the number: it lies between the midpoints to the
neighbouring numbers, which belong to the number if its coefficient is even. -/
def readsBack (x : Binary64) (d : Nat) (k : Int) : Bool :=
  let below := if x.coefficient = Nat.pow 2 52 ∧ leastExponent < x.exponent then 1 else 2
  let value := 4 * d * Nat.pow 10 k.toNat * x.den
  let unit := Nat.pow 2 x.exponent.toNat * Nat.pow 10 (-k).toNat
  let low := (4 * x.coefficient - below) * unit
  let high := (4 * x.coefficient + 2) * unit
  if x.coefficient % 2 = 0 then low ≤ value && value ≤ high else low < value && value < high

/-- The better of the two neighbours on the grid of multiples of `10 ^ k` that read back: the
nearer one, at equal distance the even one. -/
def neighbour? (x : Binary64) (k : Int) : Option Nat :=
  let num := x.num * Nat.pow 10 (-k).toNat
  let den := x.den * Nat.pow 10 k.toNat
  let d := num / den
  let nearest := divideToEven num den
  match readsBack x d k, readsBack x (d + 1) k with
  | true, true => some nearest
  | true, false => some d
  | false, true => some (d + 1)
  | false, false => none

/-- Coefficient and exponent of the shortest decimal with at least `17 - left` digits. -/
def shortestFrom (x : Binary64) : Nat → Nat × Int
  | 0 => (0, 0)
  | left + 1 =>
    let k := x.decimalExponent - (16 - left : Nat)
    match neighbour? x k with
    | some d => (d, k)
    | none => shortestFrom x left

/-- Coefficient and exponent without the zeros at the end of the coefficient. -/
def dropZeros : Nat → Nat × Int → Nat × Int
  | 0, result => result
  | fuel + 1, (d, k) => if d % 10 = 0 then dropZeros fuel (d / 10, k + 1) else (d, k)

/-- The decimal `d · 10 ^ k` with the fewest digits that reads back as a magnitude other than
zero. -/
def shortest (x : Binary64) : Nat × Int := dropZeros 17 (shortestFrom x 17)

/-- The text of a number: positional with at least one decimal if the decimal exponent is between
-5 and 15, else with an exponent that has a sign and no leading zero. -/
def text (x : Binary64) : List Char :=
  let sign := if x.negative then ['-'] else []
  if x.isZero then sign ++ ['0', '.', '0']
  else
    let (d, k) := x.shortest
    let digits := decimal d
    let point := digits.length + k
    sign ++
      if point < -4 ∨ 16 < point then
        let fraction := if digits.length = 1 then [] else '.' :: digits.drop 1
        let e := point - 1
        digits.take 1 ++ fraction ++ ['e', if e < 0 then '-' else '+'] ++ decimal e.natAbs
      else if 0 ≤ k then digits ++ List.replicate k.toNat '0' ++ ['.', '0']
      else if 0 < point then digits.take point.toNat ++ '.' :: digits.drop point.toNat
      else ['0', '.'] ++ List.replicate (-point).toNat '0' ++ digits

end Binary64

end RegionGateway
