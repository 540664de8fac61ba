/-!
# Faults of documents

Why a document cannot be read, and why a value cannot be written.  Whole
numbers in base ten have a limited number of digits, and values are nested to
a limited depth.
-/

namespace CompilerCalls.Toml

inductive ReadFault where
  | malformed
  | integerTooLong (digits : Nat)
  | tooDeep
  deriving DecidableEq, Repr

inductive WriteFault where
  | integerTooLong
  | tooDeep
  deriving DecidableEq, Repr

/-- The greatest number of digits of a whole number in base ten. -/
def integerDigits : Nat := 4300

/-- The number of steps into which a value may be nested.  When it is read, an
array takes two of them and a table in a line three; when it is written, each
takes one. -/
def nestingLimit : Nat := 975

end CompilerCalls.Toml
