import CompilerCalls.Proofs.Call.Answers
import CompilerCalls.Proofs.Path.NormalForm
import Mathlib.Control.Monad.Basic

/-!
# The program of an entry

A word names a program by its path if there is a slash in it, and else by a
name which is searched for.  The first word of an entry is the path of the
program in its normal form.  It leads where the first word of the call leads,
but a path to a name in the directory of the call has no slash in its normal
form, and then another program may be found.
-/

namespace CompilerCalls

/-- The word names a program by its path, not by a name which is searched
for. -/
def HoldsSlash (word : String) : Prop := '/' ∈ word.toList

instance (word : String) : Decidable (HoldsSlash word) :=
  inferInstanceAs (Decidable (_ ∈ _))

/-- Two words name a program in the same way: by a path to the same place, or
by a name which is searched for. -/
structure NamesAlike (directory : Path) (word other : String) : Prop where
  slash : HoldsSlash word ↔ HoldsSlash other
  place : HoldsSlash other →
    (Path.ofString word).absoluteIn directory =
      (Path.ofString other).absoluteIn directory

/-- The word is a path, but what is left of it in its normal form is at most a
name in the directory itself. -/
def LosesSlash (word : String) : Prop :=
  HoldsSlash word ∧ (Path.ofString word).isAbsolute = false ∧
    (Path.ofString word).names.length ≤ 1

instance (word : String) : Decidable (LosesSlash word) :=
  inferInstanceAs (Decidable (_ ∧ _ ∧ _))

namespace Path

theorem slash_mem_join_iff {names : List String}
    (areNames : ∀ name ∈ names, IsName name) :
    '/' ∈ (Text.join "/" names).toList ↔ 2 ≤ names.length := by
  match names with
  | [] => simp
  | [name] => simpa using (areNames name (by simp)).2.2
  | name :: next :: rest => simp [String.toList_append]

/-- The normal form of a path holds a slash if the path is absolute, or goes
through more than one name. -/
theorem holdsSlash_toString_iff (path : Path) :
    HoldsSlash path.toString ↔
      path.isAbsolute = true ∨ 2 ≤ path.names.length := by
  obtain ⟨anchor, names, areNames⟩ := path
  unfold HoldsSlash toString
  split
  · rename_i dot
    obtain ⟨rfl, rfl⟩ := dot
    simp [isAbsolute]
  · rw [String.toList_append, List.mem_append, slash_mem_join_iff areNames]
    cases anchor <;> simp [Anchor.text, isAbsolute]

theorem namesOf_of_not_holdsSlash {word : String}
    (bare : ¬HoldsSlash word) :
    namesOf word = if word = "" ∨ word = "." then [] else [word] := by
  have whole : Text.segments "/" word = [word] := by
    have cut := Text.split_of_not_mem bare
    simpa [Text.segments] using congrArg (List.map String.ofList) cut
  rw [namesOf, whole]
  by_cases nothing : word = "" ∨ word = "."
  · rcases nothing with rfl | rfl <;> rfl
  · rw [if_neg nothing, List.filter_eq_self]
    intro name member
    rw [List.mem_singleton.mp member]
    simpa using not_or.mp nothing

theorem isAbsolute_of_not_holdsSlash {word : String}
    (bare : ¬HoldsSlash word) : (ofString word).isAbsolute = false := by
  have anchor : (ofString word).anchor = .relative := by
    apply Anchor.ofText_of_head
    intro head
    exact bare (List.mem_of_mem_head? head)
  rw [isAbsolute, anchor]
  rfl

/-- No slash comes from reading and writing a path. -/
theorem holdsSlash_of_toString {word : String}
    (holds : HoldsSlash (ofString word).toString) : HoldsSlash word := by
  apply Decidable.byContradiction
  intro bare
  rcases (holdsSlash_toString_iff _).mp holds with absolute | names
  · rw [isAbsolute_of_not_holdsSlash bare] at absolute
    contradiction
  · have single : (namesOf word).length ≤ 1 := by
      rw [namesOf_of_not_holdsSlash bare]
      split <;> simp
    exact absurd (Nat.le_trans names single) (by decide)

/-- A name which is searched for is written as it is. -/
theorem toString_ofString_of_not_holdsSlash {word : String}
    (bare : ¬HoldsSlash word) (nonempty : word ≠ "") :
    (ofString word).toString = word := by
  have anchor : (ofString word).anchor = .relative := by
    simpa [isAbsolute] using isAbsolute_of_not_holdsSlash bare
  have names : (ofString word).names =
      if word = "" ∨ word = "." then [] else [word] :=
    namesOf_of_not_holdsSlash bare
  by_cases dot : word = "."
  · subst dot
    rfl
  · rw [if_neg (not_or.mpr ⟨nonempty, dot⟩)] at names
    simp [toString, anchor, names, Anchor.text]

theorem losesSlash_iff (word : String) :
    LosesSlash word ↔
      HoldsSlash word ∧ ¬HoldsSlash (ofString word).toString := by
  rw [LosesSlash, holdsSlash_toString_iff, not_or, Bool.not_eq_true,
    Nat.not_le, Nat.lt_succ_iff]

/-- The normal form of a word names a program in the same way, unless it has
lost its slash. -/
theorem namesAlike_toString_iff (directory : Path) (word : String) :
    NamesAlike directory (ofString word).toString word ↔ ¬LosesSlash word := by
  rw [losesSlash_iff]
  constructor
  · rintro alike ⟨holds, lost⟩
    exact lost (alike.slash.mpr holds)
  · intro kept
    constructor
    · refine ⟨holdsSlash_of_toString, fun holds => ?_⟩
      exact Decidable.byContradiction fun lost => kept ⟨holds, lost⟩
    · intro _
      rw [ofString_toString]

end Path

namespace Call

/-- What the first word of an entry says about the program which the first
word of a call names. -/
structure ProgramFrom (directory : Path) (first : String) (entry : Entry) :
    Prop where
  sameDirectory : entry.directory = directory
  word : entry.words.head? = some (Path.ofString first).toString
  /-- Both words lead to the same place. -/
  place : (Path.ofString (Path.ofString first).toString).absoluteIn directory =
    (Path.ofString first).absoluteIn directory
  /-- A name which is searched for stays the same. -/
  bare : ¬HoldsSlash first → first ≠ "" → entry.words.head? = some first
  alike : (∃ word, entry.words.head? = some word ∧
    NamesAlike directory word first) ↔ ¬LosesSlash first

variable {first : String} {rest : List String} {directory : Path}
  {environment : Environment} {call : Call} {entries : List Entry}
  {entry : Entry}

theorem head?_words_of_mem (answered : call.entries = .ok entries)
    (member : entry ∈ entries) :
    entry.directory = call.directory ∧
      entry.words.head? = some call.program.toString := by
  rw [entries_eq, Except.ok.injEq] at answered
  subst answered
  split at member
  · obtain ⟨source, _, rfl⟩ := List.mem_map.mp member
    exact ⟨rfl, rfl⟩
  · contradiction

/-- Every entry of a call starts with its program in normal form.  That names
the program in the same way as the call does, unless it has lost its slash. -/
theorem programFrom_of_mem
    (launches : Call.ofWords (first :: rest) directory environment = .ok call)
    (answered : call.entries = .ok entries) (member : entry ∈ entries) :
    ProgramFrom directory first entry := by
  obtain ⟨sameDirectory, word⟩ := head?_words_of_mem answered member
  simp only [ofWords] at launches
  split at launches
  · cases launches
    constructor
    · exact sameDirectory
    · exact word
    · rw [Path.ofString_toString]
    · intro bare nonempty
      rw [word]
      exact congrArg some
        (Path.toString_ofString_of_not_holdsSlash bare nonempty)
    · rw [← Path.namesAlike_toString_iff directory, word]
      simp [launched]
  · cases launches

/-- The program of a call which goes up and down again keeps its way. -/
theorem programFrom_of_mem_through_parent :
    let call := launched "../bin/./gcc" ["-c", "a.c"] (Path.ofString "/w")
      rfl {} none
    let entry : Entry := ⟨Path.ofString "/w/a.c", Path.ofString "/w", none,
      ["../bin/gcc", "-c", "a.c"]⟩
    Call.ofWords ["../bin/./gcc", "-c", "a.c"] (Path.ofString "/w") =
        .ok call ∧
      call.entries = .ok [entry] ∧
      NamesAlike (Path.ofString "/w") "../bin/gcc" "../bin/./gcc" := by
  intro call entry
  have answered : call.entries = .ok [entry] := by decide +kernel
  have kept : ¬LosesSlash "../bin/./gcc" := by decide +kernel
  have program := programFrom_of_mem
    (show Call.ofWords ["../bin/./gcc", "-c", "a.c"] (Path.ofString "/w") =
      .ok call from rfl) answered (List.mem_singleton_self entry)
  obtain ⟨word, isFirst, alike⟩ := program.alike.mpr kept
  cases isFirst
  exact ⟨rfl, answered, alike⟩

/-- A program which is started from the directory of the call is searched for
when its entry is run. -/
theorem not_namesAlike_of_first_dot :
    (launched "./gcc" ["-c", "a.c"] (Path.ofString "/w") rfl {} none).entries =
        .ok [⟨Path.ofString "/w/a.c", Path.ofString "/w", none,
          ["gcc", "-c", "a.c"]⟩] ∧
      ¬NamesAlike (Path.ofString "/w") "gcc" "./gcc" := by
  constructor
  · decide +kernel
  · intro alike
    have holds : HoldsSlash "gcc" ↔ HoldsSlash "./gcc" := alike.slash
    revert holds
    decide +kernel

end Call

end CompilerCalls
