import CompilerCalls.Path.Basic

/-!
# File trees

What stands in a file system at one moment, and what may be done with it:
directories, files with their octets, and symbolic links with the text of
their targets.  A place is given by the names on the way from the root.
-/

namespace CompilerCalls

inductive Node where
  | directory
  /-- Whatever can be read to its end, with the octets which are read. -/
  | file (content : List UInt8)
  | link (target : String)
  /-- Something which is there but cannot be opened, as a socket. -/
  | special
  deriving DecidableEq, Repr

/-- The listed places of a file system.  The first node listed for a place
counts, and the places on the way to a listed one are directories. -/
structure FileTree where
  nodes : List (List String × Node) := []
  /-- Directories in which no name may be looked up. -/
  unsearchable : List (List String) := []
  /-- Places which may not be opened to be read. -/
  unreadable : List (List String) := []
  deriving Repr

namespace FileTree

/-- The root, or a place on the way to a listed one. -/
def leadsFurther (tree : FileTree) (place : List String) : Bool :=
  place.isEmpty || tree.nodes.any fun listed => place.isPrefixOf listed.1

/-- What stands at a place, with links as they are. -/
def node? (tree : FileTree) (place : List String) : Option Node :=
  match tree.nodes.lookup place with
  | some node => some node
  | none => if tree.leadsFurther place then some .directory else none

def isDirectory (tree : FileTree) (place : List String) : Bool :=
  tree.node? place == some .directory

/-- Names may be looked up in the directory at a place. -/
def maySearch (tree : FileTree) (place : List String) : Bool :=
  !tree.unsearchable.contains place

def mayRead (tree : FileTree) (place : List String) : Bool :=
  !tree.unreadable.contains place

/-- The tree with one more node, which hides any node at its place. -/
def insert (tree : FileTree) (place : List String) (node : Node) : FileTree :=
  { tree with nodes := (place, node) :: tree.nodes }

end FileTree

end CompilerCalls
