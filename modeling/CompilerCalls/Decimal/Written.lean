import CompilerCalls.Decimal.Shortest

/-!
# Written decimals

A number is written with the digits of its shortest numeral.  From one ten
thousandth up to below ten to the sixteenth the point stands among the digits,
with at least one digit on either side; other numbers have one digit before
the point and an exponent of at least two digits.
-/

namespace CompilerCalls.Decimal

/-- A number in front of which zeros are written up to a width. -/
def padded (width : Nat) (value : Nat) : String :=
  let digits := value.repr
  String.ofList (List.replicate (width - digits.length) '0') ++ digits

def writtenExponent (exponent : Int) : String :=
  (if exponent < 0 then "e-" else "e+") ++ padded 2 exponent.natAbs

def Numeral.written (numeral : Numeral) : String :=
  let digits := numeral.digits.repr.toList
  let leading := numeral.exponent + digits.length - 1
  if -4 ≤ leading ∧ leading < 16 then
    if 0 ≤ numeral.exponent then
      let zeros := List.replicate numeral.exponent.toNat '0'
      String.ofList (digits ++ zeros) ++ ".0"
    else if 0 ≤ leading then
      let whole := (leading + 1).toNat
      String.ofList (digits.take whole ++ '.' :: digits.drop whole)
    else
      "0." ++ String.ofList (List.replicate (-leading - 1).toNat '0' ++ digits)
  else
    let fraction :=
      if digits.length = 1 then [] else '.' :: digits.drop 1
    String.ofList (digits.take 1 ++ fraction) ++ writtenExponent leading

def Binary64.written : Binary64 → String
  | .notANumber => "nan"
  | .infinite negative => if negative then "-inf" else "inf"
  | .finite negative mantissa exponent =>
      (if negative then "-" else "") ++
        if mantissa = 0 then "0.0" else (shortest mantissa exponent).written

end CompilerCalls.Decimal
