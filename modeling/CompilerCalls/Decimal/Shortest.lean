import CompilerCalls.Decimal.Binary64

/-!
# Shortest decimals

Among the decimals which round to a number, one has the fewest digits and of
those the least distance to the number.  Of two equally near ones the even one
is taken.
-/

namespace CompilerCalls.Decimal

structure Numeral where
  digits : Nat
  exponent : Int
  deriving DecidableEq, Repr

/-- The quotients strictly between which, or on which if the mantissa is even,
every decimal rounds to a positive number: both ends and the number itself, as
numerators over a common denominator. -/
structure RoundingInterval where
  low : Nat
  middle : Nat
  high : Nat
  denominator : Nat
  closed : Bool

/-- The interval of a positive number.  Below a power of two the numbers lie
twice as dense. -/
def RoundingInterval.ofNumber (mantissa : Nat) (exponent : Int) :
    RoundingInterval :=
  let narrow := mantissa = Nat.pow 2 52 ∧ Binary64.minExponent < exponent
  let unit := scaled 2 1 1 (exponent - 2)
  { low := (4 * mantissa - if narrow then 1 else 2) * unit.1
    middle := 4 * mantissa * unit.1
    high := (4 * mantissa + 2) * unit.1
    denominator := unit.2
    closed := mantissa % 2 = 0 }

/-- A numeral rounds to the number of an interval. -/
def RoundingInterval.holds (interval : RoundingInterval) (numeral : Numeral) :
    Bool :=
  let quotient := scaled 10 numeral.digits 1 numeral.exponent
  let value := quotient.1 * interval.denominator
  let low := interval.low * quotient.2
  let high := interval.high * quotient.2
  if interval.closed then low ≤ value && value ≤ high
  else low < value && value < high

/-- The numerals with a power of ten which are next to the number, the nearer
one first. -/
def RoundingInterval.neighbours (interval : RoundingInterval)
    (exponent : Int) : List Numeral :=
  let quotient := scaled 10 interval.middle interval.denominator (-exponent)
  let below := quotient.1 / quotient.2
  let nearest := roundedQuotient quotient.1 quotient.2
  if nearest = below then [⟨below, exponent⟩, ⟨below + 1, exponent⟩]
  else [⟨below + 1, exponent⟩, ⟨below, exponent⟩]

/-- The first numeral which rounds to the number, from a power of ten down to
ever smaller ones. -/
def RoundingInterval.search (interval : RoundingInterval) :
    Nat → Int → Option Numeral
  | 0, _ => none
  | steps + 1, exponent =>
      match (interval.neighbours exponent).find? interval.holds with
      | some numeral => some numeral
      | none => interval.search steps (exponent - 1)

def exactly (mantissa : Nat) (exponent : Int) : Numeral :=
  if 0 ≤ exponent then ⟨mantissa * Nat.pow 2 exponent.toNat, 0⟩
  else ⟨mantissa * Nat.pow 5 (-exponent).toNat, exponent⟩

/-- The shortest numeral of a positive number.  The search starts at a power
of ten above the number and passes the seventeen digits which tell all numbers
apart. -/
def shortest (mantissa : Nat) (exponent : Int) : Numeral :=
  let top := (exponent + mantissa.log2 + 1) * 30103 / 100000 + 1
  ((RoundingInterval.ofNumber mantissa exponent).search 20 top).getD
    (exactly mantissa exponent)

end CompilerCalls.Decimal
