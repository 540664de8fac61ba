import CompilerCalls.Text.Split

/-!
# Lists of paths in one value

Variables hold several directories with a separator between them.  The empty
value holds none; an empty segment of any other value counts.
-/

namespace CompilerCalls

inductive PathListFault where
  | emptySeparator
  deriving DecidableEq, Repr

def PathListFault.message : PathListFault → String
  | .emptySeparator => "empty separator"

namespace PathList

/-- The segments of a value between separators which are not empty. -/
def segments (value separator : String) : List String :=
  if value = "" then [] else Text.segments separator value

/-- The segments of a value between any separators.  The empty value needs no
separator. -/
def split (value separator : String) : Except PathListFault (List String) :=
  if value ≠ "" ∧ separator = "" then .error .emptySeparator
  else .ok (segments value separator)

end PathList

end CompilerCalls
