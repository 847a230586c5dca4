import RegionGateway.Number.Binary64
import RegionGateway.Text.Blank

/-!
# Numbers in TOML

Reading a number looks at its form, `Numeral.read?`: signs, prefixes, underscores and leading zeros.
Whether it has a value is another question, `Numeral.hasValue`. The digits of a whole number have to be
digits of its base, and the number fits into 128 bits, with or without sign; any other number lies
within the range of binary floating point.
-/

namespace RegionGateway.Toml

/-- A number as it is written, without underscores. -/
inductive Numeral where
  /-- A whole number: its base, whether it is negative, and what stands for its digits. -/
  | whole (base : Nat) (negative : Bool) (digits : List Char)
  /-- A number with a fraction or an exponent: the digits before and after the point, whether the
  exponent is negative, and its digits. -/
  | real (before after : List Char) (shrinks : Bool) (exponent : List Char)
  /-- Infinity, or what is no number. -/
  | special
  deriving DecidableEq

namespace Numeral

/-! ## Form -/

/-- Characters without the sign at their front. -/
def unsigned : List Char → List Char
  | '+' :: rest => rest
  | '-' :: rest => rest
  | cs => cs

/-- Characters without underscores. -/
def withoutUnderscores (cs : List Char) : List Char := cs.filter (· != '_')

/-- Whether a character is a digit in base sixteen. -/
def isHexDigit (c : Char) : Bool :=
  c.isDigit || ('a' ≤ c && c ≤ 'f') || ('A' ≤ c && c ≤ 'F')

/-- Whether every underscore has a digit on either side. -/
def areParted (isDigit : Char → Bool) (cs : List Char) : Bool :=
  let parts := Text.splitChars (· == '_') cs
  (parts.drop 1).all (fun part => part.head?.any isDigit) &&
    parts.dropLast.all fun part => part.getLast?.any isDigit

/-- A whole number after the prefix of its base. -/
def based? (base : Nat) (isDigit : Char → Bool) (cs : List Char) : Option Numeral :=
  if cs.all (fun c => isDigit c || c == '_') && areParted isHexDigit cs then
    some (.whole base false (withoutUnderscores cs))
  else none

/-- The digits at the front, underscores among them, and what follows. There is a digit, and several
do not begin with a zero unless that is allowed. -/
def digits? (leadingZero : Bool) (cs : List Char) : Option (List Char × List Char) :=
  let front := cs.takeWhile fun c => c.isDigit || c == '_'
  let digits := withoutUnderscores front
  if digits.isEmpty || (!leadingZero && front.head? == some '0' && digits.length != 1) then none
  else some (digits, cs.drop front.length)

/-- The digits after the point, if there is a point, and what follows. -/
def fraction? : List Char → Option (List Char × List Char)
  | '.' :: rest => digits? true rest
  | cs => some ([], cs)

/-- The sign and the digits of the exponent, if there is one, and what follows. -/
def exponent? : List Char → Option (Bool × List Char × List Char)
  | [] => some (false, [], [])
  | c :: rest =>
    if c = 'e' ∨ c = 'E' then
      (digits? true (unsigned rest)).map fun (digits, more) => (rest.head? == some '-', digits, more)
    else some (false, [], c :: rest)

/-- A number with a fraction or an exponent, without its sign. -/
def real? (cs : List Char) : Option Numeral := do
  let (before, rest) ← digits? false cs
  let (after, rest) ← fraction? rest
  let (shrinks, exponent, rest) ← exponent? rest
  if rest.isEmpty then some (.real before after shrinks exponent) else none

/-- A number to base ten without its sign. -/
def decimal? (negative : Bool) (cs : List Char) : Option Numeral :=
  let more := cs.dropWhile Char.isDigit
  if more.any fun c => c == '.' || c == 'e' || c == 'E' then
    if areParted Char.isDigit cs then real? cs else none
  else if more.isEmpty || more.head? == some '_' then
    if cs.isEmpty || (cs.head? == some '0' && cs != ['0']) || !areParted isHexDigit cs then none
    else some (.whole 10 negative (withoutUnderscores cs))
  else none

/-- The number that characters are. A sign stands before numbers to base ten only. -/
def read? (cs : List Char) : Option Numeral :=
  let rest := unsigned cs
  match rest with
  | ['i', 'n', 'f'] => some .special
  | ['n', 'a', 'n'] => some .special
  | '0' :: 'x' :: digits => if rest == cs then based? 16 isHexDigit digits else none
  | '0' :: 'o' :: digits =>
    if rest == cs then based? 8 (fun c => '0' ≤ c && c ≤ '7') digits else none
  | '0' :: 'b' :: digits => if rest == cs then based? 2 (fun c => c == '0' || c == '1') digits else none
  | _ => decimal? (cs.head? == some '-') rest

/-! ## Value -/

/-- The value of a digit to a base. -/
def digit? (base : Nat) (c : Char) : Option Nat :=
  let value :=
    if c.isDigit then c.toNat - '0'.toNat
    else if 'a' ≤ c ∧ c ≤ 'f' then c.toNat - 'a'.toNat + 10
    else if 'A' ≤ c ∧ c ≤ 'F' then c.toNat - 'A'.toNat + 10
    else base
  if value < base then some value else none

/-- The number that digits write. -/
def natural? (base : Nat) (digits : List Char) : Option Nat :=
  if digits.isEmpty then none
  else (digits.mapM (digit? base)).map (·.foldl (fun n d => n * base + d) 0)

/-- Whether a number given by its digits and a power of ten is in the range of binary floating point,
or so small that zero is nearest. Digits and power are compared first, so that no large power is
taken. -/
def isInRange (digits : List Char) (power : Int) : Bool :=
  let significant := digits.dropWhile (· == '0')
  let size := (significant.length : Int) + power
  if significant.isEmpty || size < -400 then true
  else if 400 < size then false
  else
    match natural? 10 significant with
    | some n => (Binary64.round false (n * Nat.pow 10 power.toNat)
      (Nat.pow 10 (-power).toNat)).isSome
    | none => false

/-- Whether a number has a value that can be held. -/
def hasValue : Numeral → Bool
  | .whole base negative digits =>
    (natural? base digits).any fun n => if negative then n ≤ Nat.pow 2 127 else n < Nat.pow 2 128
  | .real before after shrinks exponent =>
    let size : Int := (natural? 10 exponent).getD 0
    isInRange (before ++ after) ((if shrinks then -size else size) - after.length)
  | .special => true

end Numeral

end RegionGateway.Toml
