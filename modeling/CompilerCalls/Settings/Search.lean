import CompilerCalls.FileTree.Resolution
import CompilerCalls.Text.Quoted

/-!
# The search for a settings file

The settings file which counts is the one in the nearest directory, from a
start upward to the root.
-/

namespace CompilerCalls

namespace Path

/-- A path and its parents, for as many steps as are given. -/
def lineage : Nat → Path → List Path
  | 0, path => [path]
  | steps + 1, path => path :: lineage steps path.parent

/-- A path, its parent, and so on up to the place where it starts. -/
def ancestors (path : Path) : List Path := lineage path.names.length path

end Path

/-- Why it cannot be said whether a settings file is there. -/
inductive SearchFault where
  | tooLong (path : Path)
  | denied (path : Path)
  /-- The start has no place. -/
  | unresolved (fault : FileTree.ResolutionFault)
  deriving DecidableEq

namespace SearchFault

def message : SearchFault → String
  | .tooLong path =>
      "[Errno 36] File name too long: " ++ Text.quoted path.toString
  | .denied path =>
      "[Errno 13] Permission denied: " ++ Text.quoted path.toString
  | .unresolved (.ring path) =>
      "Symlink loop from " ++ Text.quoted path.toString
  | .unresolved .nulInName => "embedded null byte"
  | .unresolved .tooDeep => "maximum recursion depth exceeded"

/-- The fault of a path which can be neither found nor missed. -/
def ofLookup? (path : Path) : FileTree.LookupFault → Option SearchFault
  | .tooLong => some (.tooLong path)
  | .denied => some (.denied path)
  | .missing | .tooManyLinks | .nulInName => none

end SearchFault

namespace Settings

def fileName : String := "ccdb.toml"

def fileIn (directory : Path) : Path :=
  directory.child fileName (by decide)

/-- Something is there where a path leads. -/
def isThere (tree : FileTree) (current path : Path) :
    Except SearchFault Bool :=
  match tree.reach current path with
  | .ok _ => .ok true
  | .error fault =>
      match SearchFault.ofLookup? path fault with
      | some fault => .error fault
      | none => .ok false

/-- The first of some paths where something is there. -/
def firstThere? (tree : FileTree) (current : Path) :
    List Path → Except SearchFault (Option Path)
  | [] => .ok none
  | path :: rest =>
      match isThere tree current path with
      | .error fault => .error fault
      | .ok true => .ok (some path)
      | .ok false => firstThere? tree current rest

/-- The nearest settings file, from the resolved start upward.  Whatever has
the name and exists is found. -/
def find? (tree : FileTree) (current start : Path) :
    Except SearchFault (Option Path) :=
  match tree.resolve current start with
  | .error fault => .error (.unresolved fault)
  | .ok directory =>
      firstThere? tree current (directory.ancestors.map fileIn)

end Settings

end CompilerCalls
