/-!
# Numbers in 64 bits

Binary floating-point numbers with 53 bits of precision, as exact values: a
whole number times a power of two.  A decimal is rounded to the nearest one,
and a decimal half-way between two of them goes to the one with an even
mantissa.
-/

namespace CompilerCalls.Decimal

inductive Binary64 where
  /-- The mantissa times two to the power of the exponent. -/
  | finite (negative : Bool) (mantissa : Nat) (exponent : Int)
  | infinite (negative : Bool)
  | notANumber
  deriving DecidableEq, Repr

/-- A quotient rounded to the nearest whole number, half-way to even. -/
def roundedQuotient (numerator denominator : Nat) : Nat :=
  let quotient := numerator / denominator
  let doubled := 2 * (numerator % denominator)
  if doubled < denominator then quotient
  else if denominator < doubled then quotient + 1
  else if quotient % 2 = 0 then quotient else quotient + 1

/-- A quotient scaled by a power of the base: numerator and denominator. -/
def scaled (base numerator denominator : Nat) (exponent : Int) : Nat × Nat :=
  if 0 ≤ exponent then (numerator * base.pow exponent.toNat, denominator)
  else (numerator, denominator * base.pow (-exponent).toNat)

namespace Binary64

def minExponent : Int := -1074

def maxExponent : Int := 971

/-- The exponent of the last bit which is kept of a positive quotient. -/
def lastBit (numerator denominator : Nat) : Int :=
  let estimate : Int := numerator.log2 - denominator.log2
  let power := scaled 2 1 1 estimate
  let floor :=
    if numerator * power.2 < power.1 * denominator then estimate - 1
    else estimate
  max minExponent (floor - 52)

/-- The number nearest to a positive quotient. -/
def ofQuotient (negative : Bool) (numerator denominator : Nat) : Binary64 :=
  let exponent := lastBit numerator denominator
  let shifted := scaled 2 numerator denominator (-exponent)
  let mantissa := roundedQuotient shifted.1 shifted.2
  let carried := mantissa = Nat.pow 2 53
  let exponent := if carried then exponent + 1 else exponent
  if maxExponent < exponent then .infinite negative
  else .finite negative (if carried then Nat.pow 2 52 else mantissa) exponent

/-- The number nearest to a decimal: digits times a power of ten.  Powers far
beyond the greatest and the least number are not computed. -/
def ofDecimal (negative : Bool) (digits : Nat) (exponent : Int) : Binary64 :=
  if digits = 0 ∨ exponent + digits.log2 < -2000 then
    .finite negative 0 minExponent
  else if 2000 < exponent then .infinite negative
  else
    let quotient := scaled 10 digits 1 exponent
    ofQuotient negative quotient.1 quotient.2

end Binary64

end CompilerCalls.Decimal
