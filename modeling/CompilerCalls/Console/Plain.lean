import CompilerCalls.Console.Grid
import CompilerCalls.Console.Print

/-!
# A plain console

The console of a stream which is no terminal, which holds all characters and
is as wide as any line needs.
-/

namespace CompilerCalls.Console

def plain : Console
  | .line text =>
      match messageText text with
      | .error fault => .error (.markup fault)
      | .ok shown => .ok (shown ++ "\n")
  | .table form headings rows =>
      (Grid.text form headings rows).mapError .markup

end CompilerCalls.Console
