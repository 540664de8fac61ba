import CompilerCalls.Environment.IncludePaths
import CompilerCalls.Path.Basic

/-!
# Compiler calls and their entries

A call is one launch of a program: the words it was given, its own name first,
and the directory and the environment in which it ran.  An entry is the record
of one source which a call compiles.
-/

namespace CompilerCalls

structure Call where
  program : Path
  /-- The words, the name of the program first. -/
  words : List String
  directory : Path
  environment : Environment
  words_ne_nil : words ≠ []
  directory_isAbsolute : directory.isAbsolute = true

inductive CallFault where
  | noWords
  | relativeDirectory (directory : Path)
  deriving DecidableEq

def CallFault.message : CallFault → String
  | .noWords => "argv must contain at least the program name"
  | .relativeDirectory directory =>
      "working directory must be absolute: " ++ directory.toString

namespace Call

/-- The call whose first word is given apart from the others.  Unless a
program is given, the first word names it. -/
def launched (first : String) (rest : List String) (directory : Path)
    (directory_isAbsolute : directory.isAbsolute = true)
    (environment : Environment) (program? : Option String) : Call :=
  { program := Path.ofString (program?.getD first)
    words := first :: rest
    directory
    environment
    words_ne_nil := List.cons_ne_nil first rest
    directory_isAbsolute }

/-- The call with the given words, unless there are none or the directory
depends on another one. -/
def ofWords (words : List String) (directory : Path)
    (environment : Environment := {}) (program? : Option String := none) :
    Except CallFault Call :=
  match words with
  | [] => .error .noWords
  | first :: rest =>
      if absolute : directory.isAbsolute = true then
        .ok (launched first rest directory absolute environment program?)
      else .error (.relativeDirectory directory)

/-- The words without the name of the program. -/
def arguments (call : Call) : List String := call.words.tail

end Call

structure Entry where
  file : Path
  directory : Path
  output : Option Path
  words : List String
  deriving DecidableEq

end CompilerCalls
