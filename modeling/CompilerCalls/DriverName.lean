import CompilerCalls.Path.Basic
import CompilerCalls.Text.DecimalDigit

/-!
# Names of compiler drivers

A driver goes by a bare name, or by a name which ends in one of a few stems
with any fields before it that end in a dash, as in `arm-none-eabi-gcc`.  A
version may follow the stem, as in `gcc-12.2.0`.  Names are looked at from
their end, so these functions take their characters last one first.
-/

namespace CompilerCalls

namespace DriverName

def bareNames : List String := ["cc", "c++", "cxx", "CC"]

/-- Names of the drivers for the single languages. -/
def stems : List String := ["gcc", "mcc", "g++", "m++", "gfortran", "fortran"]

/-- Nothing stands before a stem, or a dash. -/
def isFieldBoundary : List Char → Bool
  | [] => true
  | character :: _ => character == '-'

/-- The name ends in a stem which starts a field. -/
def endsInStem (reversed : List Char) : Bool :=
  stems.any fun stem =>
    stem.toList.reverse.isPrefixOf reversed &&
      isFieldBoundary (reversed.drop stem.length)

/-- One, two, or three numbers with single dots between them. -/
def isVersion (text : List Char) : Bool :=
  let numbers := Text.split ['.'] text
  numbers.length ≤ 3 &&
    numbers.all fun number => !number.isEmpty && number.all Text.isDecimalDigit

/-- What stands before the last dash, if a version follows that dash. -/
def beforeVersion? (reversed : List Char) : Option (List Char) :=
  match reversed.dropWhile (· != '-') with
  | [] => none
  | _ :: earlier =>
      if isVersion (reversed.takeWhile (· != '-')).reverse then some earlier
      else none

/-- The name is one of a compiler driver. -/
def accepts (name : String) : Bool :=
  bareNames.contains name || endsInStem name.toList.reverse ||
    (beforeVersion? name.toList.reverse).any endsInStem

end DriverName

/-- The last name of a path is one of a compiler driver. -/
def Path.namesDriver (path : Path) : Bool := DriverName.accepts path.name

end CompilerCalls
