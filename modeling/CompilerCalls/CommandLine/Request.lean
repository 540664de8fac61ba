import CompilerCalls.Path.Basic

/-!
# Requests

A command line asks for one of three things: the entries of a compiler call,
the flags of one, or whether a program is a compiler driver.
-/

namespace CompilerCalls

inductive Request where
  /-- The entries of a call which ran in a directory. -/
  | analyze (words : List String) (directory? config? : Option Path)
      (json verbose : Bool)
  | flags (words : List String) (json : Bool)
  | recognize (program : Path) (config? : Option Path)

/-- Why a command line asks for nothing of these. -/
inductive Refusal where
  /-- Its reader has answered it: it is wrong, or asks for help. -/
  | answered (exitCode : Nat)
  /-- No path of the file system can hold the character NUL. -/
  | nulInPath
  deriving DecidableEq, Repr

end CompilerCalls
