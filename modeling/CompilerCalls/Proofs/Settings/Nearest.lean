import CompilerCalls.Proofs.FileTree.Resolution
import CompilerCalls.Proofs.Settings.Faults
import Mathlib.Control.Monad.Basic

/-!
# The nearest settings file

A search looks in a directory, then in its parent, and so on up to a directory
which is its own parent.  It finds the first settings file that exists on this
way.  Only a path about which nothing can be said ends the search before.
-/

namespace CompilerCalls

namespace Path

/-- The directory which is so many levels above a path.  Above a root is the
root itself. -/
def ancestor : Nat → Path → Path
  | 0, path => path
  | level + 1, path => ancestor level path.parent

theorem ancestor_of_parent_eq {path : Path} (top : path.parent = path)
    (level : Nat) : path.ancestor level = path := by
  induction level with
  | zero => rfl
  | succ level induction => rw [ancestor, top, induction]

theorem length_names_parent {path : Path} (further : path.parent ≠ path) :
    path.names.length = path.parent.names.length + 1 := by
  have nonempty : path.names ≠ [] := mt parent_eq_self_iff.mpr further
  have positive := List.length_pos_iff.mpr nonempty
  rw [parent, List.length_dropLast]
  omega

/-- What follows for a directory from its parent holds of every directory. -/
theorem upward_induction {motive : Path → Prop}
    (step : ∀ path, (path.parent ≠ path → motive path.parent) → motive path)
    (path : Path) : motive path := by
  -- One name less is left with every step upward.
  induction left : path.names.length generalizing path with
  | zero =>
      have top : path.parent = path :=
        parent_eq_self_iff.mpr (List.length_eq_zero_iff.mp left)
      exact step path fun further => absurd top further
  | succ left induction =>
      apply step
      intro further
      apply induction
      exact Nat.succ.inj ((length_names_parent further).symm.trans ‹_›)

/-- After as many levels as there are names, no names are left. -/
theorem names_ancestor_length (path : Path) :
    (path.ancestor path.names.length).names = [] := by
  induction path using upward_induction with
  | step path above =>
      by_cases top : path.parent = path
      · rw [ancestor_of_parent_eq top]
        exact parent_eq_self_iff.mp top
      · rw [length_names_parent top]
        exact above top

theorem ancestors_eq (path : Path) :
    path.ancestors =
      path :: if path.parent = path then [] else path.parent.ancestors := by
  split
  · rename_i top
    rw [ancestors, parent_eq_self_iff.mp top, List.length_nil, lineage]
  · rename_i further
    rw [ancestors, length_names_parent further, lineage, ancestors]

end Path

namespace Settings

variable {tree : FileTree} {current start top path : Path}
  {level : Nat} {path? : Option Path} {fault : SearchFault}

/-- Links are followed, so nothing is there where a link leads nowhere. -/
def IsThere (tree : FileTree) (current path : Path) : Prop :=
  ∃ place, tree.reach current path = .ok place

def IsAbsent (tree : FileTree) (current path : Path) : Prop :=
  ¬IsThere tree current path ∧ ∀ fault, ¬IsUnclear tree current path fault

/-- The nearest settings file from a directory upward, if there is one. -/
def IsNearest (tree : FileTree) (current top : Path) : Option Path → Prop
  | some path => ∃ level ≤ top.names.length,
      path = fileIn (top.ancestor level) ∧ IsThere tree current path ∧
      ∀ lower < level, ¬IsThere tree current (fileIn (top.ancestor lower))
  | none => ∀ level, ¬IsThere tree current (fileIn (top.ancestor level))

/-- The search cannot go on from a level. -/
structure BlockedAt (tree : FileTree) (current top : Path) (level : Nat)
    (fault : SearchFault) : Prop where
  unclear : IsUnclear tree current (fileIn (top.ancestor level)) fault
  absent : ∀ lower < level, IsAbsent tree current (fileIn (top.ancestor lower))

/-- How a search upward from a directory ends. -/
inductive Ends (tree : FileTree) (current top : Path) :
    Except SearchFault (Option Path) → Prop
  | found (level : Nat) (within : level ≤ top.names.length)
      (there : IsThere tree current (fileIn (top.ancestor level)))
      (absent : ∀ lower < level,
        IsAbsent tree current (fileIn (top.ancestor lower))) :
      Ends tree current top (.ok (some (fileIn (top.ancestor level))))
  | none (absent : ∀ level,
        IsAbsent tree current (fileIn (top.ancestor level))) :
      Ends tree current top (.ok none)
  | blocked (level : Nat) (fault : SearchFault)
      (blocked : BlockedAt tree current top level fault) :
      Ends tree current top (.error fault)

theorem not_isUnclear_of_isThere (there : IsThere tree current path) :
    ¬IsUnclear tree current path fault := by
  obtain ⟨place, reached⟩ := there
  intro unclear
  obtain ⟨_, failed, _⟩ := isUnclear_iff.mp unclear
  cases reached.symm.trans failed

theorem isThere_eq_of_isThere (there : IsThere tree current path) :
    isThere tree current path = .ok true := by
  obtain ⟨place, reached⟩ := there
  simp only [isThere, reached]

theorem isThere_eq_of_isUnclear (unclear : IsUnclear tree current path fault) :
    isThere tree current path = .error fault := by
  obtain ⟨_, failed, same⟩ := isUnclear_iff.mp unclear
  simp only [isThere, failed, same]

theorem isThere_eq_of_isAbsent (absent : IsAbsent tree current path) :
    isThere tree current path = .ok false := by
  obtain ⟨notThere, clear⟩ := absent
  unfold isThere
  split
  · exact absurd ⟨_, ‹_›⟩ notThere
  · rename_i failed
    split
    · exact absurd (isUnclear_iff.mpr ⟨_, failed, ‹_›⟩) (clear _)
    · rfl

theorem there_or_unclear_or_absent (tree : FileTree) (current path : Path) :
    IsThere tree current path ∨ (∃ fault, IsUnclear tree current path fault) ∨
      IsAbsent tree current path := by
  by_cases there : IsThere tree current path
  · exact .inl there
  · by_cases unclear : ∃ fault, IsUnclear tree current path fault
    · exact .inr (.inl unclear)
    · exact .inr (.inr ⟨there, not_exists.mp unclear⟩)

theorem absent_below_succ (here : IsAbsent tree current (fileIn top))
    (above : ∀ lower < level,
      IsAbsent tree current (fileIn (top.parent.ancestor lower))) :
    ∀ lower < level + 1,
      IsAbsent tree current (fileIn (top.ancestor lower)) := by
  intro lower less
  cases lower with
  | zero => exact here
  | succ lower => exact above lower (Nat.lt_of_succ_lt_succ less)

/-- A search which finds nothing in a directory ends as one from its parent
does. -/
theorem Ends.up {ended : Except SearchFault (Option Path)}
    (here : IsAbsent tree current (fileIn top))
    (further : top.parent ≠ top) (ends : Ends tree current top.parent ended) :
    Ends tree current top ended := by
  cases ends with
  | found level within there absent =>
      have closer : level + 1 ≤ top.names.length := by
        rw [Path.length_names_parent further]
        exact Nat.succ_le_succ within
      exact .found (level + 1) closer there (absent_below_succ here absent)
  | none absent =>
      refine .none fun level => ?_
      cases level with
      | zero => exact here
      | succ level => exact absent level
  | blocked level fault blocked =>
      exact .blocked (level + 1) fault
        ⟨blocked.unclear, absent_below_succ here blocked.absent⟩

/-- The search looks in a directory, and then from its parent. -/
theorem ends_firstThere? (tree : FileTree) (current top : Path) :
    Ends tree current top
      (firstThere? tree current (top.ancestors.map fileIn)) := by
  induction top using Path.upward_induction with
  | step top above =>
      rw [Path.ancestors_eq, List.map_cons, firstThere?]
      rcases there_or_unclear_or_absent tree current (fileIn top) with
        there | ⟨fault, unclear⟩ | absent
      · rw [isThere_eq_of_isThere there]
        exact .found 0 (Nat.zero_le _) there (by simp)
      · rw [isThere_eq_of_isUnclear unclear]
        exact .blocked 0 fault ⟨unclear, by simp⟩
      · rw [isThere_eq_of_isAbsent absent]
        by_cases further : top.parent = top
        · simp only [if_pos further, List.map_nil, firstThere?]
          refine .none fun level => ?_
          rw [Path.ancestor_of_parent_eq further]
          exact absent
        · simp only [if_neg further]
          exact (above further).up absent further

theorem Ends.isNearest (ends : Ends tree current top (.ok path?)) :
    IsNearest tree current top path? := by
  cases ends with
  | found level within there absent =>
      exact ⟨level, within, rfl, there, fun lower less => (absent lower less).1⟩
  | none absent => exact fun level => (absent level).1

theorem Ends.not_blockedAt (ends : Ends tree current top (.ok path?))
    (level : Nat) : ¬BlockedAt tree current top level fault := by
  rintro ⟨unclear, absent⟩
  cases ends with
  | found nearest _ there absentBelow =>
      rcases Nat.lt_trichotomy level nearest with below | same | above
      · exact (absentBelow level below).2 _ unclear
      · subst same
        exact not_isUnclear_of_isThere there unclear
      · exact (absent nearest above).1 there
  | none absentAt => exact (absentAt level).2 _ unclear

theorem BlockedAt.unique {other : Nat} {otherFault : SearchFault}
    (blocked : BlockedAt tree current top level fault)
    (otherBlocked : BlockedAt tree current top other otherFault) :
    fault = otherFault := by
  rcases Nat.lt_trichotomy level other with below | same | above
  · exact absurd blocked.unclear ((otherBlocked.absent level below).2 _)
  · subst same
    have first := isThere_eq_of_isUnclear blocked.unclear
    exact Except.error.inj
      (first.symm.trans (isThere_eq_of_isUnclear otherBlocked.unclear))
  · exact absurd otherBlocked.unclear ((blocked.absent other above).2 _)

theorem IsNearest.unique {other? : Option Path}
    (nearest : IsNearest tree current top path?)
    (otherNearest : IsNearest tree current top other?) : path? = other? := by
  cases path? with
  | none =>
      cases other? with
      | none => rfl
      | some other =>
          obtain ⟨level, _, rfl, there, _⟩ := otherNearest
          exact absurd there (nearest level)
  | some path =>
      obtain ⟨level, _, rfl, there, first⟩ := nearest
      cases other? with
      | none => exact absurd there (otherNearest level)
      | some other =>
          obtain ⟨otherLevel, _, rfl, otherThere, otherFirst⟩ := otherNearest
          rcases Nat.lt_trichotomy level otherLevel with below | same | above
          · exact absurd there (otherFirst level below)
          · rw [same]
          · exact absurd otherThere (first otherLevel above)

theorem find?_eq (resolved : tree.resolve current start = .ok top) :
    find? tree current start =
      firstThere? tree current (top.ancestors.map fileIn) := by
  simp only [find?, resolved]

theorem ends_find? (resolved : tree.resolve current start = .ok top) :
    Ends tree current top (find? tree current start) := by
  rw [find?_eq resolved]
  exact ends_firstThere? tree current top

theorem find?_eq_ok_iff (resolved : tree.resolve current start = .ok top) :
    find? tree current start = .ok path? ↔
      IsNearest tree current top path? ∧
        ∀ level fault, ¬BlockedAt tree current top level fault := by
  have ends := ends_find? resolved
  constructor
  · intro found
    rw [found] at ends
    exact ⟨ends.isNearest, fun level _ => ends.not_blockedAt level⟩
  · rintro ⟨nearest, free⟩
    cases found : find? tree current start with
    | ok other? =>
        rw [found] at ends
        rw [ends.isNearest.unique nearest]
    | error fault =>
        rw [found] at ends
        cases ends with
        | blocked level _ blocked => exact absurd blocked (free level _)

theorem find?_eq_error_iff (resolved : tree.resolve current start = .ok top) :
    find? tree current start = .error fault ↔
      ∃ level, BlockedAt tree current top level fault := by
  have ends := ends_find? resolved
  constructor
  · intro failed
    rw [failed] at ends
    cases ends with
    | blocked level _ blocked => exact ⟨level, blocked⟩
  · rintro ⟨level, blocked⟩
    cases found : find? tree current start with
    | ok path? =>
        rw [found] at ends
        exact absurd blocked (ends.not_blockedAt level)
    | error other =>
        rw [found] at ends
        cases ends with
        | blocked _ _ otherBlocked => rw [blocked.unique otherBlocked]

theorem tableOf_ne_missing (path other : Path) (content : List UInt8) :
    tableOf path content ≠ .error (.missing other) := by
  intro failed
  unfold tableOf at failed
  split at failed
  · cases failed
  · rename_i document _
    cases read : Toml.read document with
    | ok table =>
        rw [read] at failed
        cases failed
    | error readFault =>
        rw [read] at failed
        cases readFault <;> cases failed

theorem ofValue_ne_missing (key : String) (value : Toml.Value) (other : Path) :
    SettingsFault.ofValue key value ≠ .missing other := by
  unfold SettingsFault.ofValue
  split <;> nofun

theorem ofTable_ne_missing (path directory other : Path)
    (document : Toml.Table) :
    ofTable path directory document ≠ .error (.missing other) := by
  have listed (compilers key) :
      pathsOf directory compilers key ≠ .error (.missing other) := by
    intro failed
    obtain ⟨value, _, same⟩ := pathsOf_error_iff.mp failed
    exact ofValue_ne_missing key value other same.symm
  intro failed
  unfold ofTable at failed
  split at failed
  · cases failed
  · rename_i compilers _
    cases recognized : pathsOf directory compilers "recognize" with
    | error fault =>
        simp only [recognized] at failed
        cases failed
        exact listed compilers _ recognized
    | ok paths =>
        cases excluded : pathsOf directory compilers "exclude" with
        | error fault =>
            simp only [recognized, excluded] at failed
            cases failed
            exact listed compilers _ excluded
        | ok others =>
            simp only [recognized, excluded] at failed
            cases failed
  · cases failed

/-- A file which is there is not reported as missing. -/
theorem loadFrom_ne_missing (there : IsThere tree current path)
    (other : Path) : loadFrom tree current path ≠ .error (.missing other) := by
  obtain ⟨place, reached⟩ := there
  intro failed
  simp only [loadFrom, reached] at failed
  split at failed
  · cases failed
  split at failed
  · rename_i content _
    cases reads : tableOf path content with
    | error fault =>
        simp only [reads] at failed
        cases failed
        exact tableOf_ne_missing path other content reads
    | ok document =>
        simp only [reads, bind, Except.bind] at failed
        split at failed
        · cases failed
        · exact ofTable_ne_missing _ _ other document failed
  · cases failed
  · cases failed

/-- What is said about a search upward from a directory. -/
structure SearchesUpward (tree : FileTree) (current start top : Path) :
    Prop where
  /-- The last directory on the way has no parent. -/
  root : (top.ancestor top.names.length).names = []
  /-- The nearest file is found, if no path comes first about which nothing can
  be said. -/
  found : ∀ path?, find? tree current start = .ok path? ↔
    IsNearest tree current top path? ∧
      ∀ level fault, ¬BlockedAt tree current top level fault
  failed : ∀ fault, find? tree current start = .error fault ↔
    ∃ level, BlockedAt tree current top level fault
  /-- Loading what is found is loading its path. -/
  loaded : start = current → ∀ path,
    find? tree current start = .ok (some path) →
    load tree current none = load tree current (some path) ∧
      ∀ other, load tree current none ≠ .error (.missing other)
  defaults : start = current → find? tree current start = .ok none →
    load tree current none = .ok {}

theorem searchesUpward_of_resolve
    (resolved : tree.resolve current start = .ok top) :
    SearchesUpward tree current start top := by
  constructor
  · exact Path.names_ancestor_length top
  · exact fun _ => find?_eq_ok_iff resolved
  · exact fun _ => find?_eq_error_iff resolved
  · rintro rfl path found
    obtain ⟨_, _, _, there, _⟩ := ((find?_eq_ok_iff resolved).mp found).1
    have same : load tree start none = loadFrom tree start path :=
      load_of_consults (.found path found)
    exact ⟨same, fun other => same ▸ loadFrom_ne_missing there other⟩
  · rintro rfl found
    simp only [load, found]

/-- What is said about a search from any start. -/
structure SearchesFrom (tree : FileTree) (current start : Path) : Prop where
  /-- A start which exists is resolved to the place where it leads. -/
  starts : tree.NamesWithoutNul → tree.IsPlace current → ∀ place,
    tree.reach current start = .ok place →
    tree.resolve current start = .ok place
  upward : ∀ top, tree.resolve current start = .ok top →
    SearchesUpward tree current start top
  unresolved : ∀ fault, tree.resolve current start = .error fault →
    find? tree current start = .error (.unresolved fault)

/-- From its resolved start a search goes upward and finds what is nearest. -/
theorem find?_searches (tree : FileTree) (current start : Path) :
    SearchesFrom tree current start := by
  constructor
  · exact fun noNul stands place => FileTree.resolve_of_reach noNul stands
  · exact fun top => searchesUpward_of_resolve
  · intro fault failed
    simp only [find?, failed]

/-- A start which is a link, an upper settings file which is a link, and a
lower link which leads nowhere. -/
def linkedFiles : FileTree where
  nodes := [(["a"], .link "b/c"), (["b", "c", "ccdb.toml"], .link "gone"),
    (["b", "ccdb.toml"], .link "../x"), (["x"], .file [])]

theorem find?_searches_through_links :
    linkedFiles.resolve Path.root (Path.ofString "a") =
        .ok (Path.ofString "/b/c") ∧
      IsNearest linkedFiles Path.root (Path.ofString "/b/c")
        (some (Path.ofString "/b/ccdb.toml")) := by
  have resolved : linkedFiles.resolve Path.root (Path.ofString "a") =
      .ok (Path.ofString "/b/c") := by decide +kernel
  have found : find? linkedFiles Path.root (Path.ofString "a") =
      .ok (some (Path.ofString "/b/ccdb.toml")) := by decide +kernel
  have searches := (find?_searches _ _ _).upward _ resolved
  exact ⟨resolved, ((searches.found _).mp found).1⟩

/-- A settings file, and in a lower directory a link to a name. -/
def linkedName (name : String) : FileTree where
  nodes := [(["d", "ccdb.toml"], .link name), (["ccdb.toml"], .file [])]

/-- Nothing can have a name which is too long, but a link to it keeps a search
from going on. -/
theorem tooLong_of_linkedName {name : String} (isName : IsName name)
    (noStep : name ≠ "..") (long : FileTree.nameLimit < name.utf8ByteSize) :
    (linkedName name).reach Path.root (Path.ofString "/d/ccdb.toml") =
      .error .tooLong := by
  have written : (Path.ofString "/d/ccdb.toml").toString = "/d/ccdb.toml" := by
    decide +kernel
  have noNul : "/d/ccdb.toml".toList.contains '\x00' = false := by
    decide +kernel
  have short : ¬FileTree.pathLimit < "/d/ccdb.toml".utf8ByteSize := by
    decide +kernel
  have start : FileTree.linkStart Path.root "/d/ccdb.toml" = Path.root := rfl
  have components : FileTree.linkComponents "/d/ccdb.toml" =
      ["", "d", "ccdb.toml"] := by decide +kernel
  have down : (linkedName name).CanLookUp Path.root "d" :=
    ⟨rfl, rfl, by decide +kernel, by decide +kernel⟩
  have atLink : (linkedName name).CanLookUp (Path.root.child "d" down.isName)
      "ccdb.toml" := ⟨rfl, rfl, by decide +kernel, by decide +kernel⟩
  have behind : (linkedName name).CanLookUp (Path.root.child "d" down.isName)
      name := ⟨rfl, rfl, isName, noStep⟩
  have directory : (linkedName name).node? (Path.root.names ++ ["d"]) =
      some .directory := rfl
  have link : (linkedName name).node?
      ((Path.root.child "d" down.isName).names ++ ["ccdb.toml"]) =
      some (.link name) := rfl
  simp only [FileTree.reach, written, start, components, noNul, short, if_false,
    Bool.false_eq_true, FileTree.linkLimit]
  rw [FileTree.reachWithin, FileTree.walk_empty rfl,
    FileTree.walk_child down (by decide +kernel) directory nofun,
    FileTree.walk_link atLink (by decide +kernel) link,
    FileTree.linkStart_of_isName isName,
    FileTree.linkComponents_of_isName isName]
  exact FileTree.walk_tooLong behind long

/-- The nearest file is not always found. -/
theorem not_found_above_linkedName :
    ¬∀ (tree : FileTree) (current start top : Path) (path? : Option Path),
      tree.resolve current start = .ok top →
      IsNearest tree current top path? →
      find? tree current start = .ok path? := by
  intro finds
  let name := String.ofList (.replicate 300 'a')
  have isName : IsName name := by
    refine ⟨by decide +kernel, by decide +kernel, ?_⟩
    rw [String.toList_ofList, List.mem_replicate]
    decide
  have unclear : IsUnclear (linkedName name) Path.root
      (Path.ofString "/d/ccdb.toml") _ :=
    .tooLong (tooLong_of_linkedName isName (by decide +kernel)
      (by decide +kernel))
  have resolved : (linkedName name).resolve Path.root (Path.ofString "d") =
      .ok (Path.ofString "/d") := by decide +kernel
  have blocked : BlockedAt (linkedName name) Path.root (Path.ofString "/d") 0
      _ := ⟨unclear, by simp⟩
  have reached : (linkedName name).reach Path.root (Path.ofString "/ccdb.toml") =
      .ok (Path.ofString "/ccdb.toml") := by decide +kernel
  have nearest : IsNearest (linkedName name) Path.root (Path.ofString "/d")
      (some (Path.ofString "/ccdb.toml")) := by
    refine ⟨1, by decide +kernel, by decide +kernel, ⟨_, reached⟩, ?_⟩
    intro lower less
    obtain rfl := Nat.lt_one_iff.mp less
    exact fun there => not_isUnclear_of_isThere there unclear
  have found := finds _ _ _ _ _ resolved nearest
  exact ((find?_eq_ok_iff resolved).mp found).2 0 _ blocked

end Settings

end CompilerCalls
