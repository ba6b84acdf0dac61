/-!
Binary floating-point numbers of 64 bits, as far as a reader and a writer of
decimal text need them: the finite numbers that are not negative, rounding of a
quotient to the nearest of them, products and quotients.

All arithmetic is exact in whole numbers and rounds once at its end, to the
even neighbour on a tie. A result beyond the greatest finite number is `none`.
-/

namespace SchemaLint

/-- The number `mantissa * 2 ^ exponent`. Rounding gives a mantissa below
`2 ^ 53`, and below `2 ^ 52` only with the least exponent. -/
structure Binary64 where
  mantissa : Nat
  exponent : Int
deriving Repr, DecidableEq

namespace Binary64

/-- The least exponent, that of the subnormal numbers. -/
def leastExponent : Int := -1074

/-- The greatest exponent of a finite number. -/
def greatestExponent : Int := 971

/-- What every mantissa is below, `2 ^ 53`. -/
def mantissaBound : Nat := 9007199254740992

/-- The least mantissa of a number that is not subnormal, `2 ^ 52`. -/
def normalLeast : Nat := 4503599627370496

/-- Zero. -/
def zero : Binary64 := ⟨0, leastExponent⟩

/-- Whether the number is zero. -/
def isZero (x : Binary64) : Bool := x.mantissa == 0

/-- A power of a base with a whole exponent, as numerator and denominator. -/
def power (base : Nat) (e : Int) : Nat × Nat := (Nat.pow base e.toNat, Nat.pow base (-e).toNat)

/-- The whole number nearest to a quotient, the even one on a tie. -/
def roundQuotient (numerator denominator : Nat) : Nat :=
  let whole := numerator / denominator
  let twice := 2 * (numerator % denominator)
  if twice > denominator || (twice == denominator && whole % 2 == 1) then whole + 1 else whole

/-- The exponent at which a quotient has 53 binary digits before the point, or
the least exponent if it has fewer there. -/
def exponentFor (numerator denominator : Nat) : Int :=
  let estimate : Int := (numerator.log2 : Int) - (denominator.log2 : Int) - 53
  let low := max estimate leastExponent
  let scale := power 2 low
  if numerator * scale.2 / (denominator * scale.1) ≥ mantissaBound then low + 1 else low

/-- The finite number nearest to a quotient with a positive denominator. -/
def ofQuotient? (numerator denominator : Nat) : Option Binary64 :=
  if numerator == 0 then some zero
  else
    let e := exponentFor numerator denominator
    let scale := power 2 e
    let m := roundQuotient (numerator * scale.2) (denominator * scale.1)
    let rounded : Binary64 := if m == mantissaBound then ⟨normalLeast, e + 1⟩ else ⟨m, e⟩
    if rounded.exponent ≤ greatestExponent then some rounded else none

/-- The number as a quotient of whole numbers. -/
def quotient (x : Binary64) : Nat × Nat :=
  let scale := power 2 x.exponent
  (x.mantissa * scale.1, scale.2)

/-- The number nearest to a whole number. -/
def ofNat? (n : Nat) : Option Binary64 := ofQuotient? n 1

/-- The rounded product. -/
def mul? (x y : Binary64) : Option Binary64 :=
  ofQuotient? (x.quotient.1 * y.quotient.1) (x.quotient.2 * y.quotient.2)

/-- The rounded quotient by a number that is not zero. -/
def div? (x y : Binary64) : Option Binary64 :=
  ofQuotient? (x.quotient.1 * y.quotient.2) (x.quotient.2 * y.quotient.1)

end Binary64

end SchemaLint
