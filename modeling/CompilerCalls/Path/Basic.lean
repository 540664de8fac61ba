import CompilerCalls.Text.Split

/-!
# Paths

A path is kept in a normal form: where it starts, and the names on the way.
Empty names and the name `.` say nothing and are left out; the name `..` stays
because a symbolic link may stand before it.  A path with exactly two slashes
in front starts at a root of its own.
-/

namespace CompilerCalls

/-- Where a path starts. -/
inductive Anchor where
  /-- At the directory in which the path is looked up. -/
  | relative
  | root
  /-- At the root which is written with two slashes. -/
  | doubleRoot
  deriving DecidableEq, Repr

def Anchor.text : Anchor → String
  | .relative => ""
  | .root => "/"
  | .doubleRoot => "//"

def Anchor.ofText : List Char → Anchor
  | '/' :: '/' :: '/' :: _ => .root
  | '/' :: '/' :: _ => .doubleRoot
  | '/' :: _ => .root
  | _ => .relative

/-- A name which has a meaning between two slashes. -/
def IsName (name : String) : Prop :=
  name ≠ "" ∧ name ≠ "." ∧ '/' ∉ name.toList

instance (name : String) : Decidable (IsName name) :=
  inferInstanceAs (Decidable (_ ∧ _ ∧ _))

structure Path where
  anchor : Anchor
  names : List String
  areNames : ∀ name ∈ names, IsName name
  deriving DecidableEq

namespace Path

def namesOf (text : String) : List String :=
  (Text.segments "/" text).filter fun name => name ≠ "" ∧ name ≠ "."

theorem isName_of_mem_namesOf {text name : String}
    (member : name ∈ namesOf text) : IsName name := by
  simp only [namesOf, Text.segments, List.mem_filter, List.mem_map,
    decide_eq_true_eq] at member
  obtain ⟨⟨segment, segmentMember, rfl⟩, notEmpty, notDot⟩ := member
  refine ⟨notEmpty, notDot, ?_⟩
  rw [String.toList_ofList]
  exact Text.not_mem_of_mem_split_singleton segmentMember

def ofString (text : String) : Path :=
  ⟨Anchor.ofText text.toList, namesOf text, fun _ => isName_of_mem_namesOf⟩

/-- A path as it is written.  The path without anything is a dot. -/
def toString (path : Path) : String :=
  if path.anchor = .relative ∧ path.names = [] then "."
  else path.anchor.text ++ Text.join "/" path.names

def root : Path := ⟨.root, [], by simp⟩

/-- The directory in which a path is looked up. -/
def here : Path := ⟨.relative, [], by simp⟩

/-- The path does not depend on a directory. -/
def isAbsolute (path : Path) : Bool := path.anchor != .relative

/-- The last name, or nothing at a root and for a dot. -/
def name (path : Path) : String := path.names.getLast?.getD ""

def parent (path : Path) : Path :=
  ⟨path.anchor, path.names.dropLast,
    fun name member => path.areNames name (List.dropLast_subset _ member)⟩

/-- The second path looked up in the first one. -/
def join (directory path : Path) : Path :=
  match path.anchor with
  | .relative =>
      ⟨directory.anchor, directory.names ++ path.names, fun name member =>
        (List.mem_append.mp member).elim (directory.areNames name)
          (path.areNames name)⟩
  | _ => path

/-- A path as it is, if it is absolute, and else in a directory. -/
def absoluteIn (path directory : Path) : Path :=
  if path.isAbsolute then path else directory.join path

def child (directory : Path) (name : String) (isName : IsName name) : Path :=
  ⟨directory.anchor, directory.names ++ [name], fun other member =>
    (List.mem_append.mp member).elim (directory.areNames other) fun last => by
      rw [List.mem_singleton.mp last]
      exact isName⟩

theorem join_of_isAbsolute (directory : Path) {path : Path}
    (absolute : path.isAbsolute = true) : directory.join path = path := by
  unfold isAbsolute at absolute
  unfold join
  split
  · simp_all
  · rfl

/-- An absolute path is its own place in every directory. -/
theorem absoluteIn_eq_join (path directory : Path) :
    path.absoluteIn directory = directory.join path := by
  unfold absoluteIn
  split
  · exact (join_of_isAbsolute directory ‹_›).symm
  · rfl

theorem isAbsolute_join {directory : Path} (path : Path)
    (absolute : directory.isAbsolute = true) :
    (directory.join path).isAbsolute = true := by
  unfold join isAbsolute at *
  split
  · exact absolute
  · simp_all

theorem isAbsolute_absoluteIn (path : Path) {directory : Path}
    (absolute : directory.isAbsolute = true) :
    (path.absoluteIn directory).isAbsolute = true := by
  rw [absoluteIn_eq_join]
  exact isAbsolute_join path absolute

theorem parent_eq_self_iff {path : Path} :
    path.parent = path ↔ path.names = [] := by
  constructor
  · intro equality
    have lengths := congrArg (fun path => path.names.length) equality
    simp only [parent, List.length_dropLast] at lengths
    exact List.length_eq_zero_iff.mp (by omega)
  · intro noNames
    cases path
    simp_all [parent]

end Path

end CompilerCalls
