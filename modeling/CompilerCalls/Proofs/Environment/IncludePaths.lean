import CompilerCalls.Proofs.Call.IncludeSuffix
import CompilerCalls.Proofs.Text.Split

/-!
# Directories in the values of variables

A value which is not empty names one directory more than it has separators.
Joined again, the directories are the value with a dot in every place where a
segment is empty, so no text of a segment is lost and none is added.

The directories of all variables are written as flags, variable by variable,
and these flags are read again as what they are: a directory is the value of
its flag whatever it looks like.
-/

namespace CompilerCalls

namespace Environment

/-- A value with a dot for each of its empty segments.  A segment starts here,
or the value goes on within one. -/
def dotted (starts : Bool) : List Char → List Char
  | [] => if starts then ['.'] else []
  | character :: rest =>
      if character = ':' then
        (if starts then ['.'] else []) ++ ':' :: dotted true rest
      else character :: dotted false rest

/-- What the value of a variable names as directories.  A variable which is not
set names none, and neither does the empty value. -/
inductive Names : Option String → List String → Prop where
  | unset : Names none []
  | empty : Names (some "") []
  | segments {value : String} {directories : List String} :
      value ≠ "" →
      directories.length = value.toList.count ':' + 1 →
      (∀ directory ∈ directories,
        directory ≠ "" ∧ ':' ∉ directory.toList) →
      (Text.join ":" directories).toList = dotted true value.toList →
      Names (some value) directories

def directoryOf (segment : List Char) : List Char :=
  if segment = [] then ['.'] else segment

/-- Only the first segment depends on whether one starts. -/
theorem exists_dotted_eq_intercalate (text : List Char) :
    ∃ first later, Text.split [':'] text = first :: later ∧
      dotted true text =
        [':'].intercalate (directoryOf first :: later.map directoryOf) ∧
      dotted false text =
        [':'].intercalate (first :: later.map directoryOf) := by
  induction text with
  | nil => exact ⟨[], [], rfl, rfl, rfl⟩
  | cons character rest induction =>
      obtain ⟨first, later, segments, fromStart, within⟩ := induction
      by_cases separator : character = ':'
      · subst character
        refine ⟨[], first :: later, ?_, ?_, ?_⟩
        · rw [Text.split_self_cons, segments]
        · simp [dotted, fromStart, directoryOf]
        · simp [dotted, fromStart]
      · have goesOn : [':'].intercalate
            ((character :: first) :: later.map directoryOf) =
            character :: dotted false rest := by
          rw [within]
          cases later <;> simp
        refine ⟨character :: first, later, ?_, ?_, ?_⟩
        · exact Text.split_cons_of_ne (Ne.symm separator) segments
        · simp [dotted, separator, directoryOf, goesOn]
        · simp [dotted, separator, goesOn]

theorem directories_eq {value : String} (nonempty : value ≠ "") :
    directories value =
      (Text.split [':'] value.toList).map
        (String.ofList ∘ directoryOf) := by
  have separator : ":".toList = [':'] := rfl
  rw [directories, PathList.segments, if_neg nonempty, Text.segments,
    separator, List.map_map]
  refine List.map_congr_left fun segment _ => ?_
  by_cases nothing : segment = []
  · simp [directoryOf, nothing]
  · simp [directoryOf, nothing]

theorem not_mem_directoryOf {segment text : List Char}
    (member : segment ∈ Text.split [':'] text) :
    directoryOf segment ≠ [] ∧ ':' ∉ directoryOf segment := by
  unfold directoryOf
  split
  · decide
  · exact ⟨‹_›, Text.not_mem_of_mem_split_singleton member⟩

theorem names_directories {value : String} (nonempty : value ≠ "") :
    Names (some value) (directories value) := by
  rw [directories_eq nonempty]
  refine .segments nonempty ?_ ?_ ?_
  · rw [List.length_map, Text.length_split]
  · intro directory member
    obtain ⟨segment, listed, rfl⟩ := List.mem_map.mp member
    obtain ⟨named, apart⟩ := not_mem_directoryOf listed
    rw [Function.comp_apply, String.toList_ofList]
    exact ⟨fun nothing => named (String.ofList_eq_empty_iff.mp nothing), apart⟩
  · obtain ⟨first, later, segments, fromStart, _⟩ :=
      exists_dotted_eq_intercalate value.toList
    have separator : ":".toList = [':'] := rfl
    rw [Text.toList_join, separator, fromStart, segments, List.map_map,
      List.map_cons]
    simp [Function.comp_def]

theorem names_directoriesOf (environment : Environment) (name : String) :
    Names (environment.value? name) (environment.directoriesOf name) := by
  unfold directoriesOf
  cases environment.value? name with
  | none => exact .unset
  | some value =>
      by_cases nothing : value = ""
      · subst value
        exact .empty
      · exact names_directories nothing

/-- The directories of the variables are written in a fixed order, each behind
its flag, and read as just these flags. -/
theorem includeFlags_faithful (environment : Environment) :
    ∃ any c cxx objc,
      Names (environment.value? "CPATH") any ∧
      Names (environment.value? "C_INCLUDE_PATH") c ∧
      Names (environment.value? "CPLUS_INCLUDE_PATH") cxx ∧
      Names (environment.value? "OBJC_INCLUDE_PATH") objc ∧
      environment.includeFlags =
        (any ++ c ++ cxx).flatMap (["-I", ·]) ++
          objc.flatMap (["-isystem", ·]) ∧
      Grammar.gnu.parse environment.includeFlags =
        (any ++ c ++ cxx).map (⟨.directorySearch, ["-I", ·]⟩) ++
          objc.map (⟨.directorySearch, ["-isystem", ·]⟩) := by
  refine ⟨_, _, _, _, environment.names_directoriesOf _,
    environment.names_directoriesOf _, environment.names_directoriesOf _,
    environment.names_directoriesOf _, ?_, ?_⟩
  · simp [includeFlags, includePairs, includeVariables, List.flatMap_map]
  · rw [environment.reads_includeFlags.parse_eq]
    simp [directoryFlags, includePairs, includeVariables, Function.comp_def]

/-- Segments may be empty, and may look like flags. -/
example :
    includeFlags ⟨[("CPATH", ":-c:"), ("OBJC_INCLUDE_PATH", "--version"),
        ("CPLUS_INCLUDE_PATH", "")]⟩ =
      ["-I", ".", "-I", "-c", "-I", ".", "-isystem", "--version"] := by
  decide +kernel

end Environment

end CompilerCalls
