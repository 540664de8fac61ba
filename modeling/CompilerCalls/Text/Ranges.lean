/-!
# Ranges of characters

Classes of characters are given by the ranges of their code points.
-/

namespace CompilerCalls.Text

/-- The character lies in one of the ranges, whose ends belong to them. -/
def inRanges (ranges : List (Nat × Nat)) (character : Char) : Bool :=
  ranges.any fun range =>
    range.1 ≤ character.toNat && character.toNat ≤ range.2

end CompilerCalls.Text
