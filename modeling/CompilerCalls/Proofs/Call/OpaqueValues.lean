import CompilerCalls.Proofs.Call.Answers
import CompilerCalls.Proofs.Flag.Gnu

/-!
# Values are not looked into

A value which is a word of its own may look like anything: like another flag,
like a question, like a source.  It is never read as one.  Another word in its
place changes this one flag and no other, so the call compiles as before and
names the same sources.  The entries keep their places and files, and only the
words of the flag differ in them, as far as the flag is kept at all.
-/

namespace CompilerCalls

/-- A value of a flag can be any word. -/
theorem Grammar.Reads.replace_value {grammar : Grammar}
    {tokens : List String} {before behind : List Flag}
    {category : Category} {key value : String}
    (reads : grammar.Reads tokens
      (before ++ ⟨category, [key, value]⟩ :: behind)) (other : String) :
    grammar.Reads
      (Flags.words before ++ key :: other :: Flags.words behind)
      (before ++ ⟨category, [key, other]⟩ :: behind) := by
  have takesNext := reads.takesNext_of_pair
    (List.mem_append_right _ List.mem_cons_self)
  have replaced := reads.replace_flag ⟨category, [key, other]⟩
    fun later => .pair takesNext later
  exact replaced

/-- Two flags say the same about a call as a whole, and neither is a source. -/
structure Flag.Alike (left right : Flag) : Prop where
  category : right.category = left.category
  notSource : left.category ≠ .source
  stops : right.stops = left.stops

namespace Flags

variable {before behind : List Flag} {flag other : Flag} {source : String}

theorem compiles_replace (alike : flag.Alike other) :
    compiles (before ++ other :: behind) =
      compiles (before ++ flag :: behind) := by
  cases before <;> simp [compiles, alike.stops]

theorem namedSources_replace (alike : flag.Alike other) :
    namedSources (before ++ other :: behind) =
      namedSources (before ++ flag :: behind) := by
  have unnamed : ∀ rest : List Flag,
      namedSources (other :: rest) = namedSources (flag :: rest) := by
    intro rest
    simp [namedSources, Flag.namedSource?, alike.category, alike.notSource]
  have split : ∀ rest : List Flag,
      namedSources (before ++ rest) =
        namedSources before ++ namedSources rest :=
    fun _ => List.filterMap_append
  rw [split, split, unnamed]

theorem linkGuard_replace (alike : flag.Alike other) :
    linkGuard (before ++ other :: behind) =
      linkGuard (before ++ flag :: behind) := by
  simp [linkGuard, alike.category]

/-- The output is named by the first flag for it, so a later one has no
say. -/
theorem outputWord?_replace (alike : flag.Alike other)
    (notFirst : flag.category = .outputPath →
      ∃ earlier ∈ before, earlier.category = .outputPath) :
    outputWord? (before ++ other :: behind) =
      outputWord? (before ++ flag :: behind) := by
  unfold outputWord?
  rw [List.find?_append, List.find?_append]
  cases found : before.find? (·.category == .outputPath) with
  | some first => rfl
  | none =>
      have noOutput : flag.category ≠ .outputPath := by
        intro isOutput
        obtain ⟨earlier, member, earlierOutput⟩ := notFirst isOutput
        have passed := List.find?_eq_none.mp found earlier member
        simp [earlierOutput] at passed
      rw [List.find?_cons_of_neg (by simpa [alike.category] using noOutput),
        List.find?_cons_of_neg (by simpa using noOutput)]

/-- In the call for one source a flag which is no source stands behind what is
kept of the flags before it. -/
theorem words_rebuilt_split (source : String) (before behind : List Flag)
    (notSource : flag.category ≠ .source) :
    words (rebuilt source (before ++ flag :: behind)) =
      linkGuard (before ++ flag :: behind) ++
        words (before.filter (Flag.keptFor source)) ++
        (if Gnu.dropped flag.category then [] else flag.tokens) ++
        words (behind.filter (Flag.keptFor source)) := by
  have kept : flag.keptFor source = !Gnu.dropped flag.category := by
    simp [Flag.keptFor, Flag.namedSource?, notSource]
  rw [rebuilt, words_append, words_guardFlags, List.filter_append,
    words_append, List.filter_cons, kept]
  cases Gnu.dropped flag.category <;> simp

end Flags

namespace Call

/-- Two entries for one source differ at most at one flag, which is another
flag in the second of them.  The given flags stand before it in the call. -/
structure EntriesDifferAt (call : Call) (before : List Flag)
    (flag other : Flag) (source : String) (entry changed : Entry) : Prop where
  file : changed.file = entry.file
  directory : changed.directory = entry.directory
  output :
    (flag.category = .outputPath →
      ∃ earlier ∈ before, earlier.category = .outputPath) →
    changed.output = entry.output
  words : ∃ kept rest, Flags.keptWords source before = .ok kept ∧
    entry.words =
      call.program.toString :: Flags.linkGuard call.flags ++ kept ++
        (if Gnu.dropped flag.category then [] else flag.tokens) ++ rest ∧
    changed.words =
      call.program.toString :: Flags.linkGuard call.flags ++ kept ++
        (if Gnu.dropped flag.category then [] else other.tokens) ++ rest

/-- Two calls compile the same sources, and their entries differ at most at one
flag, which is another flag in the second call. -/
structure DifferAt (call changed : Call) (before : List Flag)
    (flag other : Flag) : Prop where
  runCompilation :
    Flags.runCompilation changed.flags = Flags.runCompilation call.flags
  sources : Flags.sources changed.flags = Flags.sources call.flags
  entries : ∃ sources entries changedEntries,
    Flags.sources call.flags = .ok sources ∧
    call.entries = .ok entries ∧ changed.entries = .ok changedEntries ∧
    (entries = [] ∨ entries.length = sources.length) ∧
    changedEntries.length = entries.length ∧
    ∀ source entry changedEntry,
      (source, entry, changedEntry) ∈
        sources.zip (entries.zip changedEntries) →
      call.EntriesDifferAt before flag other source entry changedEntry

variable {call : Call} {before behind : List Flag} {flag other : Flag}

theorem entriesDifferAt (alike : flag.Alike other)
    (flags : call.flags = before ++ flag :: behind) (source : String) :
    call.EntriesDifferAt before flag other source
      (call.entry (before ++ flag :: behind) source)
      (call.entry (before ++ other :: behind) source) := by
  have beforeHaveWords : Flags.HaveWords before := fun earlier member =>
    call.haveWords_flags earlier (flags ▸ List.mem_append_left _ member)
  have otherNotSource : other.category ≠ .source :=
    alike.category ▸ alike.notSource
  constructor
  · rfl
  · rfl
  · intro notFirst
    simp only [entry, Flags.outputWord?_replace alike notFirst]
  · refine ⟨Flags.words (before.filter (Flag.keptFor source)),
      Flags.words (behind.filter (Flag.keptFor source)) ++
        call.environment.includeFlags,
      Flags.keptWords_eq source beforeHaveWords, ?_, ?_⟩
    · simp [entry, Flags.words_rebuilt_split _ _ _ alike.notSource, flags]
    · simp [entry, Flags.words_rebuilt_split _ _ _ otherNotSource, flags,
        Flags.linkGuard_replace alike, alike.category]

/-- Writing another flag of the same kind in the place of a flag changes the
entries of a call at that flag alone. -/
theorem differAt_withArguments {arguments : List String}
    (alike : flag.Alike other)
    (flags : call.flags = before ++ flag :: behind)
    (changedFlags :
      Grammar.gnu.parse arguments = before ++ other :: behind) :
    call.DifferAt (call.withArguments arguments) before flag other := by
  have changedIs : (call.withArguments arguments).flags =
      before ++ other :: behind := changedFlags
  have sameCompiles : Flags.compiles (call.withArguments arguments).flags =
      Flags.compiles call.flags := by
    rw [changedIs, flags, Flags.compiles_replace alike]
  have sameSources :
      Flags.namedSources (call.withArguments arguments).flags =
        Flags.namedSources call.flags := by
    rw [changedIs, flags, Flags.namedSources_replace alike]
  constructor
  · rw [Flags.runCompilation_eq (haveWords_flags _),
      Flags.runCompilation_eq (haveWords_flags _), sameCompiles]
  · rw [Flags.sources_eq (haveWords_flags _),
      Flags.sources_eq (haveWords_flags _), sameSources]
  · refine ⟨_, _, _, Flags.sources_eq call.haveWords_flags,
      call.entries_eq, entries_eq _, ?_⟩
    rw [sameCompiles, sameSources]
    cases Flags.compiles call.flags with
    | false => simp
    | true =>
        refine ⟨Or.inr (by simp), by simp, ?_⟩
        intro source entry changedEntry member
        rw [if_pos rfl, if_pos rfl, List.zip_map',
          ← List.map_prod_left_eq_zip, List.mem_map] at member
        obtain ⟨named, _, equality⟩ := member
        cases equality
        rw [entry_withArguments, changedIs]
        rw [flags]
        exact entriesDifferAt alike flags source

end Call

namespace Grammar

/-- Values are opaque.  Another value of a flag changes the flags of a call at
this flag alone.  The call compiles the same sources as before, and the
entries differ at most in that value: the output, if this is the first flag
about it, and the words of the flag, if they are kept. -/
theorem parse_replace_value {tokens : List String}
    {before behind : List Flag} {category : Category} {key value : String}
    (parsed : gnu.parse tokens =
      before ++ ⟨category, [key, value]⟩ :: behind) (other : String) :
    tokens = Flags.words before ++ key :: value :: Flags.words behind ∧
    gnu.parse (Flags.words before ++ key :: other :: Flags.words behind) =
      before ++ ⟨category, [key, other]⟩ :: behind ∧
    ∀ call : Call, call.arguments = tokens →
      call.DifferAt
        (call.withArguments
          (Flags.words before ++ key :: other :: Flags.words behind))
        before ⟨category, [key, value]⟩ ⟨category, [key, other]⟩ := by
  have reads := reads_iff.mpr parsed
  have replaced := (reads.replace_value other).parse_eq
  have alike :
      Flag.Alike ⟨category, [key, value]⟩ ⟨category, [key, other]⟩ := by
    refine ⟨rfl, ?_, rfl⟩
    rintro rfl
    obtain ⟨_, single⟩ := reads.sourcesAreWords
      ⟨.source, [key, value]⟩ (by simp) rfl
    simp at single
  refine ⟨by simpa using reads.words_eq.symm, replaced, ?_⟩
  rintro call rfl
  exact call.differAt_withArguments alike parsed replaced

/-- A directory which is called like a question does not make the call ask
it. -/
theorem parse_replace_value_by_question :
    let call := Call.launched "gcc" ["a.c", "-I", "inc", "-c"] Path.root rfl
      ⟨[("CPATH", "/x")]⟩ none
    gnu.parse ["a.c", "-I", "inc", "-c"] =
        [⟨.source, ["a.c"]⟩] ++ ⟨.directorySearch, ["-I", "inc"]⟩ ::
          [⟨.noLinking, ["-c"]⟩] ∧
      gnu.parse ["a.c", "-I", "--version", "-c"] =
        [⟨.source, ["a.c"]⟩] ++ ⟨.directorySearch, ["-I", "--version"]⟩ ::
          [⟨.noLinking, ["-c"]⟩] ∧
      call.DifferAt (call.withArguments ["a.c", "-I", "--version", "-c"])
        [⟨.source, ["a.c"]⟩] ⟨.directorySearch, ["-I", "inc"]⟩
        ⟨.directorySearch, ["-I", "--version"]⟩ := by
  intro call
  have parsed : gnu.parse ["a.c", "-I", "inc", "-c"] =
      [⟨.source, ["a.c"]⟩] ++ ⟨.directorySearch, ["-I", "inc"]⟩ ::
        [⟨.noLinking, ["-c"]⟩] := by
    decide +kernel
  obtain ⟨_, replaced, differ⟩ := parse_replace_value parsed "--version"
  exact ⟨parsed, replaced, differ call rfl⟩

end Grammar

end CompilerCalls
