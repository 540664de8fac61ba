import CompilerCalls.Proofs.Call.Answers
import CompilerCalls.Proofs.Flag.Gnu
import Mathlib.Control.Monad.Basic

/-!
# Calls for one source compile that source alone

The call for one source consists of flags which the whole call has, apart from
the word `-c` in front.  So its words are read as those flags again: no second
source and no dropped flag comes back when flags become neighbours.

Sources are told apart by how they are written.  A source which the whole call
names twice is therefore named twice in the call for it.
-/

namespace CompilerCalls

namespace Flags

/-- The flags compile one source, written a number of times, and neither link
nor hold anything that is left out for a single source. -/
structure CompileAlone (source : String) (times : Nat)
    (flags : List Flag) : Prop where
  sources : flags.filter (·.category == .source) =
    List.replicate times ⟨.source, [source]⟩
  stopsBeforeLinking : ∃ flag ∈ flags, flag.category = .noLinking
  nothingDropped : ∀ flag ∈ flags, Gnu.dropped flag.category = false

variable {source : String} {flags : List Flag}

theorem mem_guardFlags {flag : Flag} (member : flag ∈ guardFlags flags) :
    flag = ⟨.noLinking, ["-c"]⟩ := by
  unfold guardFlags at member
  split at member
  · contradiction
  · exact List.mem_singleton.mp member

theorem filter_source_kept (sourcesAreWords : SourcesAreWords flags) :
    (flags.filter (Flag.keptFor source)).filter (·.category == .source) =
      List.replicate ((namedSources flags).count source)
        ⟨.source, [source]⟩ := by
  induction flags with
  | nil => rfl
  | cons flag rest induction =>
      have headIsWord := sourcesAreWords flag List.mem_cons_self
      have restAreWords : SourcesAreWords rest := fun other member =>
        sourcesAreWords other (List.mem_cons_of_mem flag member)
      have later := induction restAreWords
      by_cases isSource : flag.category = .source
      · obtain ⟨written, single⟩ := headIsWord isSource
        obtain rfl : flag = ⟨.source, [written]⟩ := by
          rw [← isSource, ← single]
        have named : namedSources (⟨.source, [written]⟩ :: rest) =
            written :: namedSources rest := rfl
        rw [named, List.filter_cons, Flag.keptFor_source]
        by_cases same : written = source
        · rw [if_pos (by simpa using same),
            List.filter_cons_of_pos (by simp), later, same,
            List.count_cons_self, List.replicate_succ]
        · rw [if_neg (by simpa using same), later,
            List.count_cons_of_ne same]
      · have unnamed : namedSources (flag :: rest) = namedSources rest := by
          simp [namedSources, Flag.namedSource?, isSource]
        rw [unnamed, List.filter_cons]
        split
        · rw [List.filter_cons_of_neg (by simpa using isSource), later]
        · exact later

theorem exists_noLinking_rebuilt (source : String) (flags : List Flag) :
    ∃ flag ∈ rebuilt source flags, flag.category = .noLinking := by
  by_cases there : flags.any (·.category == .noLinking)
  · obtain ⟨flag, member, isNoLinking⟩ := List.any_eq_true.mp there
    have category : flag.category = .noLinking := by
      simpa using isNoLinking
    have kept : flag.keptFor source = true :=
      Flag.keptFor_of_category source (by simp [category, Gnu.dropped])
        (by simp [category])
    refine ⟨flag, ?_, category⟩
    apply List.mem_append_right
    exact List.mem_filter.mpr ⟨member, kept⟩
  · exact ⟨⟨.noLinking, ["-c"]⟩, by simp [rebuilt, guardFlags, there], rfl⟩

theorem keptFor_of_mem_rebuilt {flag : Flag}
    (member : flag ∈ rebuilt source flags) : flag.keptFor source = true := by
  rcases List.mem_append.mp member with guarding | kept
  · rw [mem_guardFlags guarding]
    rfl
  · exact (List.mem_filter.mp kept).2

theorem compileAlone_rebuilt (sourcesAreWords : SourcesAreWords flags) :
    CompileAlone source ((namedSources flags).count source)
      (rebuilt source flags) := by
  constructor
  · have guarded :
        (guardFlags flags).filter (·.category == .source) = [] := by
      rw [List.filter_eq_nil_iff]
      intro flag member
      simp [mem_guardFlags member]
    rw [rebuilt, List.filter_append, guarded, List.nil_append,
      filter_source_kept sourcesAreWords]
  · exact exists_noLinking_rebuilt source flags
  · intro flag member
    have kept := keptFor_of_mem_rebuilt member
    simp only [Flag.keptFor, Bool.and_eq_true, Bool.not_eq_true'] at kept
    exact kept.1

end Flags

namespace Grammar

variable {tokens : List String} {flags : List Flag}

/-- The call for one source is read as the flags which were kept for it. -/
theorem Reads.rebuilt (reads : gnu.Reads tokens flags) (source : String) :
    gnu.Reads (Flags.words (Flags.rebuilt source flags))
      (Flags.rebuilt source flags) := by
  have kept := reads.sublist (List.filter_sublist (p := Flag.keptFor source))
  unfold Flags.rebuilt Flags.guardFlags
  split
  · simpa using kept
  · simpa using Reads.alone gnu_standsAlone_compileOnly kept

/-- Each call for one source compiles that source alone.  The source stands
there as often as in the whole call, and the entry for it is the call itself,
under the name of the program and before the directories of the
environment. -/
theorem wordsFor_compileAlone (tokens : List String)
    {sources : List String} {source : String}
    (listed : Flags.sources (gnu.parse tokens) = .ok sources)
    (member : source ∈ sources) :
    ∃ words, Flags.wordsFor source (gnu.parse tokens) = .ok words ∧
      1 ≤ sources.count source ∧
      Flags.CompileAlone source (sources.count source) (gnu.parse words) ∧
      ∀ (call : Call) (entries : List Entry) (entry : Entry),
        call.arguments = tokens → call.entries = .ok entries →
        (source, entry) ∈ sources.zip entries →
          entry.file = (Path.ofString source).absoluteIn call.directory ∧
          entry.words = call.program.toString :: words ++
            call.environment.includeFlags := by
  have reads := gnu.reads_parse tokens
  have sourcesEquality := Flags.sources_eq reads.haveWords
  rw [listed, Except.ok.injEq] at sourcesEquality
  subst sources
  refine ⟨Flags.words (Flags.rebuilt source (gnu.parse tokens)),
    Flags.wordsFor_eq source reads.haveWords,
    List.count_pos_iff.mpr member, ?_, ?_⟩
  · rw [(reads.rebuilt source).parse_eq]
    exact Flags.compileAlone_rebuilt reads.sourcesAreWords
  · rintro call entries entry rfl answered paired
    obtain ⟨_, _, _, rfl⟩ := Call.entry_of_mem_zip listed answered paired
    exact ⟨rfl, rfl⟩

theorem wordsFor_compileAlone_twice_written :
    Flags.sources (gnu.parse ["-L", ".", "a.c", "-lm", "b.c", "a.c"]) =
        .ok ["a.c", "b.c", "a.c"] ∧
      "a.c" ∈ ["a.c", "b.c", "a.c"] ∧
      ∃ words,
        Flags.wordsFor "a.c"
            (gnu.parse ["-L", ".", "a.c", "-lm", "b.c", "a.c"]) =
          .ok words ∧
        Flags.CompileAlone "a.c" 2 (gnu.parse words) := by
  have listed :
      Flags.sources (gnu.parse ["-L", ".", "a.c", "-lm", "b.c", "a.c"]) =
        .ok ["a.c", "b.c", "a.c"] := by
    decide +kernel
  have member : "a.c" ∈ ["a.c", "b.c", "a.c"] := by decide
  obtain ⟨words, rebuilt, _, alone, _⟩ :=
    wordsFor_compileAlone _ listed member
  exact ⟨listed, member, words, rebuilt, alone⟩

/-- A source which is written twice stands twice in the call for it. -/
theorem not_compileAlone_once :
    ¬∀ (tokens sources words : List String) (source : String),
      Flags.sources (gnu.parse tokens) = .ok sources →
      source ∈ sources →
      Flags.wordsFor source (gnu.parse tokens) = .ok words →
        Flags.CompileAlone source 1 (gnu.parse words) := by
  intro alone
  have once := alone ["a.c", "a.c"] ["a.c", "a.c"] ["-c", "a.c", "a.c"] "a.c"
    (by decide +kernel) (by decide) (by decide +kernel)
  have twice : (gnu.parse ["-c", "a.c", "a.c"]).filter
      (·.category == .source) =
        [⟨.source, ["a.c"]⟩, ⟨.source, ["a.c"]⟩] := by
    decide +kernel
  rw [once.sources] at twice
  simp at twice

end Grammar

end CompilerCalls
