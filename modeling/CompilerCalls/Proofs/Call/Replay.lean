import CompilerCalls.Proofs.Call.SingleSource
import CompilerCalls.Proofs.Path.NormalForm

/-!
# Entries can be replayed

The words of an entry are a call in their own right.  Taking that call apart
gives the entry back, once for each time its source was written: nothing more
is left out, the word `-c` is now one of the flags, and the program and the
paths are in normal form already.
-/

namespace CompilerCalls

namespace Flags

variable {source : String} {flags : List Flag}

theorem guardFlags_rebuilt (source : String) (flags : List Flag) :
    guardFlags (rebuilt source flags) = [] := by
  obtain ⟨flag, member, category⟩ := exists_noLinking_rebuilt source flags
  have there :
      (rebuilt source flags).any (·.category == .noLinking) = true :=
    List.any_eq_true.mpr ⟨flag, member, by simp [category]⟩
  simp [guardFlags, there]

/-- The call for one source is its own call for that source. -/
theorem rebuilt_rebuilt (source : String) (flags : List Flag) :
    rebuilt source (rebuilt source flags) = rebuilt source flags := by
  have kept : (rebuilt source flags).filter (Flag.keptFor source) =
      rebuilt source flags :=
    List.filter_eq_self.mpr fun _ => keptFor_of_mem_rebuilt
  calc
    rebuilt source (rebuilt source flags) =
        guardFlags (rebuilt source flags) ++
          (rebuilt source flags).filter (Flag.keptFor source) := rfl
    _ = rebuilt source flags := by
      rw [guardFlags_rebuilt, List.nil_append, kept]

theorem namedSources_eq_of_filter {times : Nat}
    (alone : flags.filter (·.category == .source) =
      List.replicate times ⟨.source, [source]⟩) :
    namedSources flags = List.replicate times source := by
  have onlySources : namedSources flags =
      namedSources (flags.filter (·.category == .source)) := by
    unfold namedSources
    rw [List.filterMap_filter]
    congr 1
    funext flag
    by_cases isSource : flag.category = .source <;>
      simp [Flag.namedSource?, isSource]
  rw [onlySources, alone, namedSources, List.filterMap_replicate]
  rfl

theorem outputWord?_rebuilt (source : String) (flags : List Flag) :
    outputWord? (rebuilt source flags) = outputWord? flags := by
  have unguarded :
      (guardFlags flags).find? (·.category == .outputPath) = none := by
    rw [List.find?_eq_none]
    intro flag member
    simp [mem_guardFlags member]
  have kept : ∀ flag : Flag,
      (flag.keptFor source = true ∧
        (flag.category == .outputPath) = true) ↔
          (flag.category == .outputPath) = true := by
    intro flag
    constructor
    · exact And.right
    · intro isOutput
      have category : flag.category = .outputPath := by simpa using isOutput
      exact ⟨Flag.keptFor_of_category source
        (by simp [category, Gnu.dropped]) (by simp [category]), isOutput⟩
  unfold outputWord? rebuilt
  rw [List.find?_append, unguarded, Option.none_or, List.find?_filter]
  simp only [kept, Bool.decide_eq_true]

theorem compiles_rebuilt (compiling : compiles flags = true) :
    compiles (rebuilt source flags) = true := by
  obtain ⟨flag, member, _⟩ := exists_noLinking_rebuilt source flags
  have nonempty : rebuilt source flags ≠ [] := List.ne_nil_of_mem member
  simp only [compiles, Bool.and_eq_true, List.all_eq_true] at compiling ⊢
  refine ⟨by simpa using nonempty, ?_⟩
  intro flag member
  rcases List.mem_append.mp member with guarding | kept
  · rw [mem_guardFlags guarding]
    rfl
  · exact compiling.2 flag (List.mem_filter.mp kept).1

end Flags

namespace Call

theorem includeFlags_eq_nil {environment : Environment}
    (unset : ∀ listed ∈ Environment.includeVariables,
      environment.value? listed.1 = none) :
    environment.includeFlags = [] := by
  have noPairs : environment.includePairs = [] := by
    unfold Environment.includePairs
    rw [List.flatMap_eq_nil_iff]
    rintro ⟨name, flag⟩ member
    have absent : environment.value? name = none := unset (name, flag) member
    simp [Environment.directoriesOf, absent]
  simp [Environment.includeFlags, noPairs]

/-- The call which an entry describes. -/
def replay (call : Call) (flags : List Flag) (source : String) : Call :=
  launched call.program.toString
    (Flags.words (Flags.rebuilt source flags)) call.directory
    call.directory_isAbsolute {} none

theorem ofWords_entry {call : Call} {flags : List Flag} {source : String}
    (noFlags : call.environment.includeFlags = []) :
    Call.ofWords (call.entry flags source).words
        (call.entry flags source).directory =
      .ok (call.replay flags source) := by
  simp [ofWords, entry, noFlags, replay, call.directory_isAbsolute]

theorem flags_replay (call : Call) (source : String) :
    (call.replay call.flags source).flags = Flags.rebuilt source call.flags :=
  (call.reads_flags.rebuilt source).parse_eq

theorem entry_replay {call : Call} {flags : List Flag} {source : String}
    (noFlags : call.environment.includeFlags = []) :
    (call.replay flags source).entry (Flags.rebuilt source flags) source =
      call.entry flags source := by
  simp only [entry, replay, launched, Flags.outputWord?_rebuilt,
    Flags.rebuilt_rebuilt, Option.getD_none, Path.ofString_toString, noFlags]
  rfl

/-- Taking an entry apart as a call of its own gives that entry back, once for
each time its source is written in the call that it comes from. -/
theorem entries_of_entry (call : Call)
    (unset : ∀ listed ∈ Environment.includeVariables,
      call.environment.value? listed.1 = none)
    {sources : List String} {entries : List Entry}
    {source : String} {entry : Entry}
    (listed : Flags.sources call.flags = .ok sources)
    (answered : call.entries = .ok entries)
    (paired : (source, entry) ∈ sources.zip entries) :
    ∃ replayed, Call.ofWords entry.words entry.directory = .ok replayed ∧
      replayed.entries =
        .ok (List.replicate (sources.count source) entry) := by
  have noFlags := includeFlags_eq_nil unset
  obtain ⟨rfl, _, compiling, rfl⟩ := entry_of_mem_zip listed answered paired
  refine ⟨call.replay call.flags source, ofWords_entry noFlags, ?_⟩
  have alone : Flags.CompileAlone source _ (Flags.rebuilt source call.flags) :=
    Flags.compileAlone_rebuilt call.reads_flags.sourcesAreWords
  rw [entries_eq, flags_replay,
    if_pos (Flags.compiles_rebuilt compiling),
    Flags.namedSources_eq_of_filter alone.sources, List.map_replicate,
    entry_replay noFlags]

/-- The entry for a source which is written twice, from a call that links and
ends in a flag without its value. -/
theorem entries_of_entry_twice_written :
    let call := launched "./gcc"
      ["a.c", "-L", ".", "-o", "x", "b.c", "a.c", "-include"]
      (Path.ofString "/w") (by decide +kernel) ⟨[("PATH", "/bin")]⟩ none
    let entry : Entry :=
      ⟨Path.ofString "/w/a.c", Path.ofString "/w",
        some (Path.ofString "/w/x"), ["gcc", "-c", "a.c", "-o", "x", "a.c"]⟩
    ∃ entries,
      (∀ listed ∈ Environment.includeVariables,
        call.environment.value? listed.1 = none) ∧
      Flags.sources call.flags = .ok ["a.c", "b.c", "a.c", "-include"] ∧
      call.entries = .ok entries ∧
      ("a.c", entry) ∈ ["a.c", "b.c", "a.c", "-include"].zip entries ∧
      ∃ replayed, Call.ofWords entry.words entry.directory = .ok replayed ∧
        replayed.entries = .ok [entry, entry] := by
  intro call entry
  have unset : ∀ listed ∈ Environment.includeVariables,
      call.environment.value? listed.1 = none := by
    decide
  have listed : Flags.sources call.flags =
      .ok ["a.c", "b.c", "a.c", "-include"] := by
    decide +kernel
  have answered := call.entries_eq
  have paired : ("a.c", entry) ∈
      ["a.c", "b.c", "a.c", "-include"].zip (if Flags.compiles call.flags then
        (Flags.namedSources call.flags).map (call.entry call.flags)
          else []) := by
    decide +kernel
  exact ⟨_, unset, listed, answered, paired,
    entries_of_entry call unset listed answered paired⟩

end Call

end CompilerCalls
