import CompilerCalls.Proofs.Call.SingleSource

/-!
# Directories behind the call for one source

The directories of the environment are written behind the words of an entry,
each with its flag in front.  On their own they are read as just these flags.
Behind a call they are read so as well, unless the call ends in a flag which
has been waiting for a value: such a flag takes the first `-I`, and the first
directory becomes a source.
-/

namespace CompilerCalls

namespace Environment

/-- The header directories of the environment as flags of a call. -/
def directoryFlags (environment : Environment) : List Flag :=
  environment.includePairs.map fun pair =>
    ⟨.directorySearch, [pair.1, pair.2]⟩

theorem takesNext_of_mem_includePairs {environment : Environment}
    {pair : String × String} (member : pair ∈ environment.includePairs) :
    Grammar.gnu.TakesNext pair.1 .directorySearch := by
  simp only [includePairs, includeVariables, List.flatMap_cons,
    List.flatMap_nil, List.mem_append, List.mem_map, List.not_mem_nil,
    or_false] at member
  rcases member with ⟨_, _, rfl⟩ | ⟨_, _, rfl⟩ | ⟨_, _, rfl⟩ | ⟨_, _, rfl⟩
  · exact Grammar.gnu_takesNext_include
  · exact Grammar.gnu_takesNext_include
  · exact Grammar.gnu_takesNext_include
  · exact Grammar.gnu_takesNext_systemInclude

/-- The directories of the environment are read as themselves, whatever their
names look like. -/
theorem reads_includeFlags (environment : Environment) :
    Grammar.gnu.Reads environment.includeFlags
      environment.directoryFlags := by
  unfold includeFlags directoryFlags
  have directories : ∀ pair ∈ environment.includePairs,
      Grammar.gnu.TakesNext pair.1 .directorySearch :=
    fun _ => takesNext_of_mem_includePairs
  revert directories
  generalize environment.includePairs = pairs
  intro directories
  induction pairs with
  | nil => exact .nil
  | cons pair rest induction =>
      have takesNext := directories pair List.mem_cons_self
      exact .pair takesNext (induction fun other member =>
        directories other (List.mem_cons_of_mem pair member))

end Environment

namespace Call

/-- The call ends in the spelling of a flag whose value is missing, and that
word has a place in the call for a source. -/
def EndsWaiting (call : Call) (source : String) : Prop :=
  ∃ category token,
    call.flags.getLast? = some ⟨category, [token]⟩ ∧
      Gnu.SpellsValueFlag token ∧ (category = .source → token = source)

variable {call : Call} {source : String}

/-- A flag which waits for its value is never dropped for its category, for it
has been read as a source or passed on. -/
theorem keptFor_iff_of_lacksValue {category : Category} {token : String}
    (member : ⟨category, [token]⟩ ∈ call.flags)
    (spelling : Gnu.SpellsValueFlag token) :
    Flag.keptFor source ⟨category, [token]⟩ = true ↔
      (category = .source → token = source) := by
  have lacksValue : Grammar.gnu.LacksValue ⟨category, [token]⟩ :=
    Grammar.gnu_lacksValue_iff.mpr ⟨token, rfl, spelling⟩
  have categories := call.reads_flags.category_of_lacksValue member lacksValue
  dsimp only at categories
  rcases categories with rfl | rfl
  · simp
  · have kept : Flag.keptFor source ⟨.other, [token]⟩ = true :=
      Flag.keptFor_of_category source rfl (by simp)
    simp [kept]

theorem exists_lacksValue_rebuilt_iff :
    (∃ flag ∈ Flags.rebuilt source call.flags,
      Grammar.gnu.LacksValue flag) ↔ call.EndsWaiting source := by
  constructor
  · rintro ⟨flag, member, lacksValue⟩
    rcases List.mem_append.mp member with guarding | kept
    · rw [Flags.mem_guardFlags guarding] at lacksValue
      exact (Grammar.not_lacksValue_of_standsAlone
        Grammar.gnu_standsAlone_compileOnly lacksValue).elim
    · obtain ⟨listed, keptFor⟩ := List.mem_filter.mp kept
      obtain ⟨before, _, _, flags, _⟩ :=
        call.reads_flags.waiting_of_lacksValue listed lacksValue
      have last : call.flags.getLast? = some flag := by simp [flags]
      obtain ⟨token, single, spelling⟩ :=
        Grammar.gnu_lacksValue_iff.mp lacksValue
      obtain ⟨category, tokens⟩ := flag
      obtain rfl : tokens = [token] := single
      exact ⟨category, token, last, spelling,
        (keptFor_iff_of_lacksValue listed spelling).mp keptFor⟩
  · rintro ⟨category, token, last, spelling, own⟩
    have listed : ⟨category, [token]⟩ ∈ call.flags :=
      List.mem_of_getLast? last
    have kept : Flag.keptFor source ⟨category, [token]⟩ = true :=
      (keptFor_iff_of_lacksValue listed spelling).mpr own
    refine ⟨⟨category, [token]⟩, ?_, ?_⟩
    · apply List.mem_append_right
      exact List.mem_filter.mpr ⟨listed, kept⟩
    · exact Grammar.gnu_lacksValue_iff.mpr ⟨token, rfl, spelling⟩

/-- The directories of the environment are read behind the call for one source
as they are read on their own, unless there are some and the whole call ends in
a flag which waits for its value and is kept. -/
theorem parse_entry_words_iff (call : Call)
    {sources : List String} {entries : List Entry}
    {source : String} {entry : Entry}
    (listed : Flags.sources call.flags = .ok sources)
    (answered : call.entries = .ok entries)
    (paired : (source, entry) ∈ sources.zip entries) :
    ∃ words, Flags.wordsFor source call.flags = .ok words ∧
      (Grammar.gnu.parse entry.words.tail =
          Grammar.gnu.parse words ++ call.environment.directoryFlags ↔
        call.environment.includePairs = [] ∨ ¬call.EndsWaiting source) := by
  obtain ⟨_, _, _, rfl⟩ := entry_of_mem_zip listed answered paired
  have reads := call.reads_flags.rebuilt source
  have readsBehind := call.environment.reads_includeFlags
  refine ⟨Flags.words (Flags.rebuilt source call.flags),
    Flags.wordsFor_eq source call.haveWords_flags, ?_⟩
  have tail : (call.entry call.flags source).words.tail =
      Flags.words (Flags.rebuilt source call.flags) ++
        call.environment.includeFlags := rfl
  rw [tail, reads.parse_eq, ← exists_lacksValue_rebuilt_iff]
  constructor
  · intro undisturbed
    rw [or_iff_not_imp_left]
    rintro nonempty ⟨flag, member, lacksValue⟩
    obtain ⟨pair, rest, pairs⟩ := List.exists_cons_of_ne_nil nonempty
    rw [Environment.includeFlags, pairs] at undisturbed
    exact reads.parse_append_ne member lacksValue _ _ _ undisturbed
  · rintro (noPairs | complete)
    · simp [Environment.includeFlags, Environment.directoryFlags, noPairs,
        reads.parse_eq]
    · have together := reads.append readsBehind fun flag member lacksValue =>
        complete ⟨flag, member, lacksValue⟩
      exact together.parse_eq

/-- A word which waits for a value does no harm where it is left out. -/
theorem parse_entry_words_behind_dropped_word :
    let call := launched "gcc" ["a.c", "-o", "x", "-include"] Path.root rfl
      ⟨[("CPATH", "/x:")]⟩ none
    ∃ entries entry,
      Flags.sources call.flags = .ok ["a.c", "-include"] ∧
      call.entries = .ok entries ∧
      ("a.c", entry) ∈ ["a.c", "-include"].zip entries ∧
      ∃ words, Flags.wordsFor "a.c" call.flags = .ok words ∧
        Grammar.gnu.parse entry.words.tail = Grammar.gnu.parse words ++
          [⟨.directorySearch, ["-I", "/x"]⟩,
            ⟨.directorySearch, ["-I", "."]⟩] := by
  intro call
  have listed : Flags.sources call.flags = .ok ["a.c", "-include"] := by
    decide +kernel
  have answered := call.entries_eq
  have paired : ("a.c", call.entry call.flags "a.c") ∈
      ["a.c", "-include"].zip (if Flags.compiles call.flags then
        (Flags.namedSources call.flags).map (call.entry call.flags)
          else []) := by
    decide +kernel
  obtain ⟨words, rebuilt, undisturbed⟩ :=
    parse_entry_words_iff call listed answered paired
  have directories : call.environment.directoryFlags =
      [⟨.directorySearch, ["-I", "/x"]⟩, ⟨.directorySearch, ["-I", "."]⟩] := by
    decide +kernel
  have lastFlag : call.flags.getLast? = some ⟨.source, ["-include"]⟩ := by
    decide +kernel
  have notWaiting : ¬call.EndsWaiting "a.c" := by
    rintro ⟨category, token, last, _, own⟩
    rw [lastFlag, Option.some.injEq, Flag.mk.injEq] at last
    obtain ⟨rfl, single⟩ := last
    obtain rfl := List.singleton_inj.mp single
    exact absurd (own rfl) (by decide)
  have read := undisturbed.mpr (Or.inr notWaiting)
  rw [directories] at read
  exact ⟨_, _, listed, answered, paired, words, rebuilt, read⟩

/-- A word which waits for a value and is passed on takes the flag of the first
directory, and that directory is read as a source. -/
theorem not_parse_entry_words :
    ¬∀ (call : Call) (sources : List String) (entries : List Entry)
      (source : String) (entry : Entry) (words : List String),
      Flags.sources call.flags = .ok sources →
      call.entries = .ok entries →
      (source, entry) ∈ sources.zip entries →
      Flags.wordsFor source call.flags = .ok words →
        Grammar.gnu.parse entry.words.tail =
          Grammar.gnu.parse words ++ call.environment.directoryFlags := by
  intro undisturbed
  have read := undisturbed
    (launched "gcc" ["-c", "a.c", "-dumpbase"] Path.root rfl
      ⟨[("CPATH", "/x")]⟩ none)
    ["a.c"] [⟨Path.ofString "/a.c", Path.root, none,
      ["gcc", "-c", "a.c", "-dumpbase", "-I", "/x"]⟩]
    "a.c" _ ["-c", "a.c", "-dumpbase"]
    (by decide +kernel) (by decide +kernel) List.mem_cons_self
    (by decide +kernel)
  exact absurd read (by decide +kernel)

end Call

end CompilerCalls
