import CompilerCalls.Proofs.Call.Answers
import CompilerCalls.Proofs.Flag.Gnu
import Mathlib.Control.Monad.Basic

/-!
# Calls which do not compile

A question, or a request for dependencies in the place of the output, keeps the
driver from compiling.  Such a flag is a single word which has what it needs:
it is read alike whatever stands behind it, also when the words behind give
another flag its value.  So a call in which one stands does not compile, and no
words around it make it compile.
-/

namespace CompilerCalls

namespace Flag

/-- The flag asks a question, or for dependencies in the place of the
output. -/
def Suppresses (flag : Flag) : Prop :=
  flag.category = .query ∨ flag = ⟨.dependencies, ["-M"]⟩ ∨
    flag = ⟨.dependencies, ["-MM"]⟩

instance (flag : Flag) : Decidable flag.Suppresses :=
  inferInstanceAs (Decidable (_ ∨ _ ∨ _))

theorem Suppresses.category {flag : Flag} (suppresses : flag.Suppresses) :
    flag.category = .query ∨ flag.category = .dependencies := by
  rcases suppresses with query | rfl | rfl
  · exact Or.inl query
  · exact Or.inr rfl
  · exact Or.inr rfl

end Flag

namespace Grammar

variable {tokens : List String} {flags : List Flag} {flag : Flag}

theorem gnu_standsAlone_preprocessOnly : gnu.StandsAlone "-E" .noLinking :=
  gnu_standsAlone_of_exact (by decide +kernel)

theorem gnu_standsAlone_dependencies : gnu.StandsAlone "-M" .dependencies :=
  gnu_standsAlone_of_exact (by decide +kernel)

theorem gnu_standsAlone_ownDependencies :
    gnu.StandsAlone "-MM" .dependencies :=
  gnu_standsAlone_of_exact (by decide +kernel)

/-- The flags which stop a call are those which suppress the compilation.  The
word `-E` is among the words which stop a call, but it is never read as a flag
about dependencies. -/
theorem Reads.stops_iff (reads : Reads gnu tokens flags)
    (member : flag ∈ flags) : flag.stops = true ↔ flag.Suppresses := by
  constructor
  · intro stops
    simp only [Flag.stops, Bool.or_eq_true, Bool.and_eq_true, beq_iff_eq,
      Option.any_eq_true] at stops
    rcases stops with query | ⟨dependencies, word, first, stopWord⟩
    · exact Or.inl query
    have listed : word = "-M" ∨ word = "-MM" ∨ word = "-E" := by
      simpa [Gnu.stopWords] using stopWord
    rcases listed with rfl | rfl | rfl
    · exact Or.inr (Or.inl
        (reads.eq_of_standsAlone member first gnu_standsAlone_dependencies))
    · exact Or.inr (Or.inr (reads.eq_of_standsAlone member first
        gnu_standsAlone_ownDependencies))
    · have noLinking :=
        reads.eq_of_standsAlone member first gnu_standsAlone_preprocessOnly
      simp [noLinking] at dependencies
  · rintro (query | rfl | rfl)
    · simp [Flag.stops, query]
    · rfl
    · rfl

theorem Reads.compiles_eq_false_iff (reads : Reads gnu tokens flags) :
    Flags.compiles flags = false ↔
      flags = [] ∨ ∃ flag ∈ flags, flag.Suppresses := by
  have stopping : (∃ flag ∈ flags, flag.stops = true) ↔
      ∃ flag ∈ flags, flag.Suppresses :=
    exists_congr fun flag =>
      and_congr_right fun member => reads.stops_iff member
  rw [← stopping]
  simp [Flags.compiles, imp_iff_not_or]

/-- A flag which suppresses the compilation does not wait for a value. -/
theorem Reads.not_lacksValue_of_suppresses (reads : Reads gnu tokens flags)
    (member : flag ∈ flags) (suppresses : flag.Suppresses) :
    ¬gnu.LacksValue flag := by
  intro lacksValue
  have suppressing := suppresses.category
  rcases reads.category_of_lacksValue member lacksValue with source | other
  · simp [source] at suppressing
  · simp [other] at suppressing

theorem mem_parse_of_suppresses {before behind : List String}
    (place : before = [] ∨
      gnu.parse (before ++ (tokens ++ behind)) =
        gnu.parse before ++ gnu.parse (tokens ++ behind))
    (member : flag ∈ gnu.parse tokens) (suppresses : flag.Suppresses) :
    flag ∈ gnu.parse (before ++ (tokens ++ behind)) := by
  have reads := gnu.reads_parse tokens
  have complete := reads.not_lacksValue_of_suppresses member suppresses
  have kept := reads.mem_parse_append member complete behind
  rcases place with rfl | apart
  · exact kept
  · rw [apart]
    exact List.mem_append_right _ kept

end Grammar

namespace Call

/-- Words which do not compile on their own do not compile with others in
front, which are read apart, and with any words behind them.  A flag which
suppresses the compilation is read from them and stays where it is, so no call
with all these words has an entry. -/
theorem suppressed_within {before tokens behind : List String}
    (nonempty : tokens ≠ [])
    (place : before = [] ∨
      Grammar.gnu.parse (before ++ (tokens ++ behind)) =
        Grammar.gnu.parse before ++ Grammar.gnu.parse (tokens ++ behind))
    (suppressed :
      Flags.runCompilation (Grammar.gnu.parse tokens) = .ok false) :
    Flags.runCompilation (Grammar.gnu.parse (before ++ (tokens ++ behind))) =
        .ok false ∧
      (∃ flag, flag.Suppresses ∧ flag ∈ Grammar.gnu.parse tokens ∧
        flag ∈ Grammar.gnu.parse (before ++ (tokens ++ behind))) ∧
      ∀ call : Call, call.arguments = before ++ (tokens ++ behind) →
        call.entries = .ok [] := by
  have reads := Grammar.gnu.reads_parse tokens
  have readsAll := Grammar.gnu.reads_parse (before ++ (tokens ++ behind))
  rw [Flags.runCompilation_eq reads.haveWords, Except.ok.injEq,
    reads.compiles_eq_false_iff] at suppressed
  obtain ⟨flag, member, suppresses⟩ : ∃ flag ∈ Grammar.gnu.parse tokens,
      flag.Suppresses := by
    apply suppressed.resolve_left
    intro noFlags
    apply nonempty
    rw [← reads.words_eq, noFlags, Flags.words_nil]
  have kept := Grammar.mem_parse_of_suppresses place member suppresses
  have compiles : Flags.compiles
      (Grammar.gnu.parse (before ++ (tokens ++ behind))) = false :=
    readsAll.compiles_eq_false_iff.mpr (Or.inr ⟨flag, kept, suppresses⟩)
  refine ⟨?_, ⟨flag, suppresses, member, kept⟩, ?_⟩
  · rw [Flags.runCompilation_eq readsAll.haveWords, compiles]
  · intro call arguments
    rw [entries_eq, flags, arguments, compiles]
    rfl

/-- The question is followed by a flag which gets its value from the words
behind. -/
theorem suppressed_within_completed_flag :
    let call := launched "gcc"
      (["a.c"] ++ (["--version", "-o"] ++ ["x", "b.c"])) Path.root rfl {} none
    ["--version", "-o"] ≠ [] ∧
      Grammar.gnu.parse (["a.c"] ++ (["--version", "-o"] ++ ["x", "b.c"])) =
        Grammar.gnu.parse ["a.c"] ++
          Grammar.gnu.parse (["--version", "-o"] ++ ["x", "b.c"]) ∧
      Flags.runCompilation (Grammar.gnu.parse ["--version", "-o"]) =
        .ok false ∧
      Flags.runCompilation call.flags = .ok false ∧
      call.entries = .ok [] := by
  intro call
  have nonempty : ["--version", "-o"] ≠ [] := List.cons_ne_nil _ _
  have apart :
      Grammar.gnu.parse (["a.c"] ++ (["--version", "-o"] ++ ["x", "b.c"])) =
        Grammar.gnu.parse ["a.c"] ++
          Grammar.gnu.parse (["--version", "-o"] ++ ["x", "b.c"]) := by
    decide +kernel
  have suppressed :
      Flags.runCompilation (Grammar.gnu.parse ["--version", "-o"]) =
        .ok false := by
    decide +kernel
  obtain ⟨stopped, _, noEntries⟩ :=
    suppressed_within nonempty (Or.inr apart) suppressed
  exact ⟨nonempty, apart, suppressed, stopped, noEntries call rfl⟩

end Call

end CompilerCalls
