/-!
# Binary floating point

Magnitudes of the binary64 format as exact numbers `mantissa * 2 ^ exponent`. Every operation
rounds its exact result to the nearest representable magnitude, ties to an even mantissa, and has
no result where that magnitude is too large for the format.
-/

namespace LedgerBoard.Number

/-- The nearest whole number to a quotient; a tie goes to the even neighbour. -/
def roundHalfEven (num den : Nat) : Nat :=
  let quotient := num / den
  let twice := 2 * (num % den)
  if den < twice || (twice == den && quotient % 2 == 1) then quotient + 1 else quotient

/-- The magnitude `mantissa * 2 ^ exponent`. -/
structure Binary64 where
  mantissa : Nat
  exponent : Int
  deriving DecidableEq, Repr

namespace Binary64

def minExponent : Int := -1074

def maxExponent : Int := 971

/-- The smallest mantissa of all magnitudes but those with the smallest exponent. -/
def minMantissa : Nat := 0x10000000000000

/-- Numerator and denominator of a quotient divided by a power of two. -/
def scaleDown (num den : Nat) (exponent : Int) : Nat × Nat :=
  (num * Nat.pow 2 (-exponent).toNat, den * Nat.pow 2 exponent.toNat)

/-- The magnitude nearest to a quotient, unless that is too large. -/
def ofRatio? (num den : Nat) : Option Binary64 :=
  if num = 0 then some ⟨0, minExponent⟩
  else
    let guess := max ((num.log2 : Int) - den.log2 - 53) minExponent
    let (top, bottom) := scaleDown num den guess
    let exponent := if top / bottom < 2 * minMantissa then guess else guess + 1
    let (top, bottom) := scaleDown num den exponent
    let mantissa := roundHalfEven top bottom
    let (mantissa, exponent) :=
      if mantissa = 2 * minMantissa then (minMantissa, exponent + 1) else (mantissa, exponent)
    if exponent ≤ maxExponent then some ⟨mantissa, exponent⟩ else none

/-- Numerator and denominator of a magnitude. -/
def ratio (x : Binary64) : Nat × Nat :=
  (x.mantissa * Nat.pow 2 x.exponent.toNat, Nat.pow 2 (-x.exponent).toNat)

/-- The power of ten from which on every magnitude is too large. -/
def decimalLimit : Int := 310

/-- The magnitude nearest to `digits * 10 ^ exponent`, unless that is too large. Exponents beyond
the reach of the format are settled without computing the power, for
`10 ^ exponent ≤ 2 ^ (3 * exponent)` where the exponent is negative. -/
def ofDecimal? (digits : Nat) (exponent : Int) : Option Binary64 :=
  if digits = 0 ∨ digits.log2 + 3 * exponent < minExponent - 2 then some ⟨0, minExponent⟩
  else if decimalLimit ≤ exponent then none
  else ofRatio? (digits * Nat.pow 10 exponent.toNat) (Nat.pow 10 (-exponent).toNat)

def mul? (x y : Binary64) : Option Binary64 :=
  ofRatio? (x.ratio.1 * y.ratio.1) (x.ratio.2 * y.ratio.2)

/-- The rounded quotient of two magnitudes, the second of which is not zero. -/
def div? (x y : Binary64) : Option Binary64 :=
  ofRatio? (x.ratio.1 * y.ratio.2) (x.ratio.2 * y.ratio.1)

end Binary64

end LedgerBoard.Number
