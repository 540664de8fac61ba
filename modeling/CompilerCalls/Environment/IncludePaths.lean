import CompilerCalls.Environment.PathList

/-!
# Header directories in the environment

Compiler drivers search the directories in some variables after those on the
command line.  Each of them can be written as a flag with its directory.
-/

namespace CompilerCalls

/-- The variables of a process.  The first binding of a name counts. -/
structure Environment where
  bindings : List (String × String) := []
  deriving DecidableEq, Repr

namespace Environment

def value? (environment : Environment) (name : String) : Option String :=
  environment.bindings.lookup name

/-- The variables which hold header directories, in the order in which they
are searched, each with the flag for one of its directories. -/
def includeVariables : List (String × String) :=
  [("CPATH", "-I"), ("C_INCLUDE_PATH", "-I"), ("CPLUS_INCLUDE_PATH", "-I"),
    ("OBJC_INCLUDE_PATH", "-isystem")]

/-- The directories in a value.  An empty segment is the current one. -/
def directories (value : String) : List String :=
  (PathList.segments value ":").map fun segment =>
    if segment = "" then "." else segment

/-- The directories in a variable.  One which is not set holds none. -/
def directoriesOf (environment : Environment) (name : String) : List String :=
  match environment.value? name with
  | none => []
  | some value => directories value

/-- Every header directory of the environment with its flag. -/
def includePairs (environment : Environment) : List (String × String) :=
  includeVariables.flatMap fun (name, flag) =>
    (environment.directoriesOf name).map fun directory => (flag, directory)

/-- The header directories of the environment as words of a call. -/
def includeFlags (environment : Environment) : List String :=
  environment.includePairs.flatMap fun (flag, directory) => [flag, directory]

end Environment

end CompilerCalls
