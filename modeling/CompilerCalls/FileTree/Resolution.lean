import CompilerCalls.FileTree.Lookup

/-!
# Resolving links

A path is resolved by following the links on its way, while names that stand
for nothing are taken as they are.  A link which is met again while its own
target is being resolved ends that: what is left of the path is then taken as
it is written.
-/

namespace CompilerCalls

namespace Path

/-- The place above the one to which a path leads.  Above the start of a
relative path there are more places. -/
def above (path : Path) : Path :=
  if path.anchor = .relative ∧ (path.names = [] ∨ path.name = "..") then
    path.child ".." (by decide)
  else path.parent

/-- A name, or a step back over the last one. -/
def step (names : List String) (name : String) : List String :=
  if name = ".." then names.dropLast else names ++ [name]

private theorem isName_of_mem_foldl_step (names start : List String)
    (areNames : ∀ name ∈ names, IsName name)
    (startAreNames : ∀ name ∈ start, IsName name) :
    ∀ name ∈ names.foldl step start, IsName name := by
  induction names generalizing start with
  | nil => exact startAreNames
  | cons first rest induction =>
      refine induction _ (fun name member =>
        areNames name (List.mem_cons_of_mem _ member)) fun name member => ?_
      unfold step at member
      split at member
      · exact startAreNames name (List.dropLast_subset _ member)
      · rcases List.mem_append.mp member with earlier | last
        · exact startAreNames name earlier
        · rw [List.mem_singleton.mp last]
          exact areNames first List.mem_cons_self

/-- The names of the place from which a path goes on. -/
def startIn (path current : Path) : List String :=
  if path.isAbsolute then [] else current.names

/-- An absolute path in which each `..` has taken away the name before it. -/
def collapsed (path : Path) : Path :=
  ⟨path.anchor, path.names.foldl step [],
    isName_of_mem_foldl_step path.names [] path.areNames (by simp)⟩

end Path

namespace FileTree

inductive ResolutionFault where
  /-- What is left of a path leads into a ring of links. -/
  | ring (path : Path)
  | nulInName
  /-- Links lead to links more often than can be followed. -/
  | tooDeep
  deriving DecidableEq

def depthLimit : Nat := 980

inductive Trail where
  /-- All of it, to this place. -/
  | complete (place : Path)
  /-- Up to a ring of links. -/
  | broken (path : Path)

/-- The links which have been met, with the places where they lead as far as
that is known. -/
abbrev Met := List (Path × Option Path)

def remainder (path : Path) (components : List String) : Path :=
  path.join (Path.ofString (Text.join "/" components))

/-- Every name may be looked up where the names before it lead from a place, if
there are no links. -/
def admits (tree : FileTree) (place : List String) : List String → Bool
  | [] => true
  | name :: rest => tree.maySearch place && tree.admits (Path.step place name) rest

/-- What can be seen at a path whose own links are resolved. -/
def nodeAt? (tree : FileTree) (current path : Path) : Option Node :=
  let start := path.startIn current
  if tree.admits start path.names then
    tree.node? (path.names.foldl Path.step start)
  else none

/-- Resolves components behind a place.  At a link, `follow` resolves its
target behind that place. -/
def trailBy (tree : FileTree) (current : Path)
    (follow : Met → Path → String → Except ResolutionFault (Trail × Met))
    (met : Met) (place : Path) :
    List String → Except ResolutionFault (Trail × Met)
  | [] => .ok (.complete place, met)
  | component :: rest =>
      if component = ".." then tree.trailBy current follow met place.above rest
      else if isName : IsName component then
        let next := place.child component isName
        if component.toList.contains '\x00' then .error .nulInName
        else
          match tree.nodeAt? current next with
          | some (.link target) =>
              match met.lookup next with
              | some (some known) =>
                  tree.trailBy current follow met known rest
              | some none => .ok (.broken (remainder next rest), met)
              | none =>
                  match follow ((next, none) :: met) place target with
                  | .error fault => .error fault
                  | .ok (.broken path, met) =>
                      .ok (.broken (remainder path rest), met)
                  | .ok (.complete known, met) =>
                      tree.trailBy current follow ((next, some known) :: met)
                        known rest
          | _ => tree.trailBy current follow met next rest
      else tree.trailBy current follow met place rest

/-- Resolves the target of a link behind the place of that link, through
links which lead to links at most as often as given. -/
def targetTrail (tree : FileTree) (current : Path) :
    Nat → Met → Path → String → Except ResolutionFault (Trail × Met)
  | 0, _, _, _ => .error .tooDeep
  | depth + 1, met, place, target =>
      tree.trailBy current (tree.targetTrail current depth) met
        (linkStart place target) (linkComponents target)

def trail (tree : FileTree) (current path : Path) :
    Except ResolutionFault Path :=
  match tree.targetTrail current depthLimit [] Path.here path.toString with
  | .error fault => .error fault
  | .ok (.complete place, _) => .ok (place.absoluteIn current).collapsed
  | .ok (.broken path, _) => .ok (path.absoluteIn current).collapsed

/-- The path without links, from the root.  A part behind a ring of links may
keep them, unless it leads into a ring again. -/
def resolve (tree : FileTree) (current path : Path) :
    Except ResolutionFault Path :=
  match tree.trail current path with
  | .error fault => .error fault
  | .ok path =>
      match tree.reach current path with
      | .error .tooManyLinks => .error (.ring path)
      | .error .nulInName => .error .nulInName
      | _ => .ok path

end FileTree

end CompilerCalls
