import CompilerCalls.FileTree.Basic

/-!
# Looking up paths in a file tree

Looking up a path follows every link on the way, and fails where something is
missing or a directory may not be searched, as opening a file does.  The number
of links which are followed is limited, so rings of links end, and so are the
lengths of paths and names.
-/

namespace CompilerCalls

namespace FileTree

inductive LookupFault where
  /-- Something on the way is missing, or is no directory. -/
  | missing
  /-- A directory on the way may not be searched. -/
  | denied
  /-- The path, or a name which is looked up, is too long. -/
  | tooLong
  | tooManyLinks
  | nulInName
  deriving DecidableEq, Repr

def linkLimit : Nat := 40

/-- The greatest number of octets in a name. -/
def nameLimit : Nat := 255

/-- The greatest number of octets in a path. -/
def pathLimit : Nat := 4095

/-- Where the target of a link starts, for a link which stands in a place. -/
def linkStart (place : Path) (target : String) : Path :=
  if Anchor.ofText target.toList = .relative then place else Path.root

/-- The components of a target.  An empty one says that a directory stands
before it; the others are looked up in that directory. -/
def linkComponents (target : String) : List String := Text.segments "/" target

/-- Goes on from a place by the given components.  At a link, `follow` goes on
from the start of its target. -/
def walk (tree : FileTree)
    (follow : Path → List String → Except LookupFault Path) (place : Path) :
    List String → Except LookupFault Path
  | [] => .ok place
  | component :: rest =>
      if !tree.isDirectory place.names then .error .missing
      else if component ≠ "" && !tree.maySearch place.names then .error .denied
      else if component = ".." then tree.walk follow place.parent rest
      else if isName : IsName component then
        if nameLimit < component.utf8ByteSize then .error .tooLong
        else
          match tree.node? (place.names ++ [component]) with
          | none => .error .missing
          | some (.link target) =>
              follow (linkStart place target) (linkComponents target ++ rest)
          | some _ => tree.walk follow (place.child component isName) rest
      else tree.walk follow place rest

/-- The place which is reached by at most the given number of links. -/
def reachWithin (tree : FileTree) :
    Nat → Path → List String → Except LookupFault Path
  | 0 => tree.walk fun _ _ => .error .tooManyLinks
  | links + 1 => tree.walk (tree.reachWithin links)

/-- The place where a path leads, as it is written, if everything on the way
exists.  A relative one starts where the current directory stands, whatever
stands above that. -/
def reach (tree : FileTree) (current path : Path) : Except LookupFault Path :=
  let written := path.toString
  if written.toList.contains '\x00' then .error .nulInName
  else if pathLimit < written.utf8ByteSize then .error .tooLong
  else
    tree.reachWithin linkLimit (linkStart current written)
      (linkComponents written)

end FileTree

end CompilerCalls
