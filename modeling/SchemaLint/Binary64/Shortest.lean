import SchemaLint.Binary64.Basic

/-!
The shortest decimal text of a binary floating-point number: of the decimals
that round back to it, one with the fewest digits, and of those the nearest.

The decimals that round to a number `x` fill the interval between the midpoints
to its neighbours, with the midpoints themselves exactly when the mantissa is
even. For each count of digits only the two decimals next to `x` can be the
nearest, so the search looks at those, count by count.
-/

namespace SchemaLint.Binary64

/-- A decimal number `digits * 10 ^ exponent`. -/
structure Decimal where
  digits : Nat
  exponent : Int
deriving Repr, DecidableEq

/-- The exponent of the power of ten at the first significant digit. Multiplied
by `10 ^ 400` every number here is at least one, and counting the digits of the
whole part finds the place. -/
def leadingPlace (x : Binary64) : Int :=
  let (numerator, denominator) := x.quotient
  ((Nat.toDigits 10 (numerator * Nat.pow 10 400 / denominator)).length : Int) - 401

/-- Whether the decimal rounds to `x`. The numbers below `x` are twice as dense
when its mantissa is the least of its exponent. -/
def absorbs (x : Binary64) (d : Decimal) : Bool :=
  let (up, down) := power 2 x.exponent
  let (tens, tenths) := power 10 d.exponent
  let value := d.digits * 4 * down * tens
  let below := if x.mantissa == normalLeast && x.exponent > leastExponent then 1 else 2
  let low := (4 * x.mantissa - below) * up * tenths
  let high := (4 * x.mantissa + 2) * up * tenths
  if x.mantissa % 2 == 0 then low ≤ value && value ≤ high else low < value && value < high

/-- The decimals with last digit at `10 ^ e` on both sides of `x`, the nearer
first, and on a tie the one with an even last digit. -/
def neighbours (x : Binary64) (e : Int) : List Decimal :=
  let (numerator, denominator) := x.quotient
  let (tens, tenths) := power 10 e
  let n := numerator * tenths
  let unit := denominator * tens
  let lower := n / unit
  let twice := 2 * (n % unit)
  if twice < unit || (twice == unit && lower % 2 == 0) then [⟨lower, e⟩, ⟨lower + 1, e⟩]
  else [⟨lower + 1, e⟩, ⟨lower, e⟩]

/-- The decimal without zeros at the end of its digits; a number has no more
digits than `fuel`. -/
def dropZeros : Nat → Decimal → Decimal
  | 0, d => d
  | fuel + 1, d =>
    if d.digits != 0 && d.digits % 10 == 0 then
      dropZeros fuel ⟨d.digits / 10, d.exponent + 1⟩
    else d

/-- The shortest decimal that rounds to `x`; 17 digits are always enough. -/
def shortest (x : Binary64) : Decimal :=
  if x.isZero then ⟨0, 0⟩
  else
    let place := x.leadingPlace
    let candidates := (List.range 17).flatMap fun (more : Nat) => x.neighbours (place - more)
    dropZeros 20 ((candidates.find? x.absorbs).getD ⟨0, 0⟩)

/-! ## Text -/

/-- A decimal written in positions, with at least one digit on both sides of the
point. -/
def positional (d : Decimal) : List Char :=
  let ds := Nat.toDigits 10 d.digits
  if d.exponent ≥ 0 then ds ++ List.replicate d.exponent.toNat '0' ++ ['.', '0']
  else
    let places := (-d.exponent).toNat
    let padded := List.replicate (places + 1 - ds.length) '0' ++ ds
    padded.take (padded.length - places) ++ '.' :: padded.drop (padded.length - places)

/-- The exponent of the power of ten at the first digit of a decimal. -/
def Decimal.place (d : Decimal) : Int :=
  d.exponent + ((Nat.toDigits 10 d.digits).length : Int) - 1

/-- A decimal written with one digit before the point and a power of ten. -/
def scientific (d : Decimal) : List Char :=
  let ds := Nat.toDigits 10 d.digits
  let sign := if d.place < 0 then '-' else '+'
  let fraction := if ds.length ≤ 1 then [] else '.' :: ds.drop 1
  ds.take 1 ++ fraction ++ 'e' :: sign :: Nat.toDigits 10 d.place.natAbs

/-- The shortest text with the point in place. -/
def plainText (x : Binary64) : List Char := positional x.shortest

/-- The shortest text, in positions from `10 ^ -5` up to below `10 ^ 16`, and
with a power of ten outside. -/
def compactText (x : Binary64) : List Char :=
  let d := x.shortest
  if -5 ≤ d.place && d.place ≤ 15 then positional d else scientific d

end SchemaLint.Binary64
