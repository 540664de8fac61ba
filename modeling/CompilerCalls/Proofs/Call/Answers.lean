import CompilerCalls.Call.Rebuild
import CompilerCalls.Proofs.Flag.Segmentation

/-!
# What calls answer

The questions about flags can only fail at a flag without words, and no such
flag is read from a call.  For flags with words each question has a plain
answer, given here beside the function that asks it, and a call has one entry
for each source exactly when it compiles.
-/

namespace CompilerCalls

namespace Flag

def namedSource? (flag : Flag) : Option String :=
  if flag.category = .source then flag.tokens.head? else none

def stops (flag : Flag) : Bool :=
  flag.category == .query ||
    flag.category == .dependencies &&
      flag.tokens.head?.any Gnu.stopWords.contains

/-- The flag has a place in the call for one source. -/
def keptFor (source : String) (flag : Flag) : Bool :=
  !Gnu.dropped flag.category && flag.namedSource?.all (· == source)

/-- The value of a flag for the output path, or the empty text if it has no
words. -/
def outputWord (flag : Flag) : String :=
  match flag.tokens with
  | [glued] => String.ofList (glued.toList.drop 2)
  | tokens => tokens.getLast?.getD ""

variable {flag : Flag}

theorem first_eq {token : String} {values : List String}
    (tokens : flag.tokens = token :: values) : flag.first = .ok token := by
  simp [first, tokens]

theorem source?_eq (hasWords : flag.tokens ≠ []) :
    flag.source? = .ok flag.namedSource? := by
  obtain ⟨token, values, tokens⟩ := List.exists_cons_of_ne_nil hasWords
  by_cases isSource : flag.category = .source
  · simp [source?, namedSource?, isSource, first_eq tokens, tokens]
  · simp [source?, namedSource?, isSource]

theorem outputValue_eq (hasWords : flag.tokens ≠ []) :
    flag.outputValue = .ok flag.outputWord := by
  obtain ⟨token, values, tokens⟩ := List.exists_cons_of_ne_nil hasWords
  cases values with
  | nil => simp [outputValue, outputWord, tokens]
  | cons value values =>
      simp [outputValue, outputWord, Flag.value, tokens, List.getLast?_cons]

theorem keptWords_eq (source : String) (hasWords : flag.tokens ≠ []) :
    flag.keptWords source =
      .ok (if flag.keptFor source then flag.tokens else []) := by
  by_cases dropped : Gnu.dropped flag.category
  · simp [keptWords, keptFor, dropped]
  · cases named : flag.namedSource? with
    | none =>
        simp [keptWords, keptFor, dropped, source?_eq hasWords, named, bind,
          Except.bind, pure, Except.pure]
    | some other =>
        simp [keptWords, keptFor, dropped, source?_eq hasWords, named, bind,
          Except.bind, pure, Except.pure]

theorem keptFor_of_category (source : String)
    (notDropped : Gnu.dropped flag.category = false)
    (notSource : flag.category ≠ .source) : flag.keptFor source = true := by
  simp [keptFor, namedSource?, notDropped, notSource]

@[simp] theorem keptFor_source (source written : String) :
    keptFor source ⟨.source, [written]⟩ = (written == source) := by
  simp [keptFor, namedSource?, Gnu.dropped]

end Flag

namespace Flags

/-- Every flag has a word.  Flags which are read from a call do. -/
def HaveWords (flags : List Flag) : Prop := ∀ flag ∈ flags, flag.tokens ≠ []

def namedSources (flags : List Flag) : List String :=
  flags.filterMap Flag.namedSource?

def compiles (flags : List Flag) : Bool :=
  !flags.isEmpty && flags.all (!·.stops)

def outputWord? (flags : List Flag) : Option String :=
  (flags.find? (·.category == .outputPath)).map Flag.outputWord

def guardFlags (flags : List Flag) : List Flag :=
  if flags.any (·.category == .noLinking) then [] else [⟨.noLinking, ["-c"]⟩]

/-- The flags of the call for one source. -/
def rebuilt (source : String) (flags : List Flag) : List Flag :=
  guardFlags flags ++ flags.filter (Flag.keptFor source)

variable {flags : List Flag}

theorem HaveWords.of_cons {flag : Flag} (haveWords : HaveWords (flag :: flags)) :
    flag.tokens ≠ [] ∧ HaveWords flags :=
  List.forall_mem_cons.mp haveWords

theorem sources_eq (haveWords : HaveWords flags) :
    sources flags = .ok (namedSources flags) := by
  induction flags with
  | nil => rfl
  | cons flag rest induction =>
      obtain ⟨hasWords, restHaveWords⟩ := haveWords.of_cons
      cases named : flag.namedSource? <;>
        simp [sources, namedSources, Flag.source?_eq hasWords,
          induction restHaveWords, named, bind, Except.bind, pure,
          Except.pure]

theorem noneStops_eq (haveWords : HaveWords flags) :
    noneStops flags = .ok (flags.all (!·.stops)) := by
  induction flags with
  | nil => rfl
  | cons flag rest induction =>
      obtain ⟨hasWords, restHaveWords⟩ := haveWords.of_cons
      obtain ⟨token, values, tokens⟩ := List.exists_cons_of_ne_nil hasWords
      unfold noneStops
      by_cases query : flag.category = .query
      · simp [query, Flag.stops]
      · by_cases dependencies : flag.category = .dependencies
        · by_cases stopWord : token ∈ Gnu.stopWords <;>
            simp [dependencies, Flag.first_eq tokens, tokens, Flag.stops,
              stopWord, induction restHaveWords]
        · simp [query, dependencies, Flag.stops, induction restHaveWords]

theorem runCompilation_eq (haveWords : HaveWords flags) :
    runCompilation flags = .ok (compiles flags) := by
  cases flags with
  | nil => rfl
  | cons flag rest =>
      rw [runCompilation, noneStops_eq haveWords]
      simp [compiles]

theorem output?_eq (haveWords : HaveWords flags) :
    output? flags = .ok (outputWord? flags) := by
  induction flags with
  | nil => rfl
  | cons flag rest induction =>
      obtain ⟨hasWords, restHaveWords⟩ := haveWords.of_cons
      by_cases isOutput : flag.category = .outputPath
      · simp [output?, outputWord?, isOutput, Flag.outputValue_eq hasWords,
          Except.map]
      · simp [output?, outputWord?, isOutput, induction restHaveWords]

theorem keptWords_eq (source : String) (haveWords : HaveWords flags) :
    keptWords source flags =
      .ok (words (flags.filter (Flag.keptFor source))) := by
  induction flags with
  | nil => rfl
  | cons flag rest induction =>
      obtain ⟨hasWords, restHaveWords⟩ := haveWords.of_cons
      cases kept : flag.keptFor source <;>
        simp [keptWords, Flag.keptWords_eq source hasWords,
          induction restHaveWords, kept, bind, Except.bind, pure, Except.pure]

theorem words_guardFlags (flags : List Flag) :
    words (guardFlags flags) = linkGuard flags := by
  unfold guardFlags linkGuard
  split <;> rfl

theorem wordsFor_eq (source : String) (haveWords : HaveWords flags) :
    wordsFor source flags = .ok (words (rebuilt source flags)) := by
  simp [wordsFor, rebuilt, keptWords_eq source haveWords, words_guardFlags,
    bind, Except.bind, pure, Except.pure]

end Flags

theorem Grammar.Reads.haveWords {grammar : Grammar} {tokens : List String}
    {flags : List Flag} (reads : grammar.Reads tokens flags) :
    Flags.HaveWords flags := by
  intro flag member
  rcases reads.single_or_pair member with
    ⟨token, single⟩ | ⟨token, value, pair, _⟩
  · simp [single]
  · simp [pair]

namespace Call

/-- The call with other words behind the name of the program.  The program,
the directory, and the environment stay. -/
def withArguments (call : Call) (arguments : List String) : Call :=
  { call with
    words := call.words.head call.words_ne_nil :: arguments
    words_ne_nil := List.cons_ne_nil _ _ }

def entry (call : Call) (flags : List Flag) (source : String) : Entry where
  file := (Path.ofString source).absoluteIn call.directory
  directory := call.directory
  output := (Flags.outputWord? flags).map fun output =>
    (Path.ofString output).absoluteIn call.directory
  words := call.program.toString :: Flags.words (Flags.rebuilt source flags) ++
    call.environment.includeFlags

variable {call : Call} {flags : List Flag}

theorem reads_flags (call : Call) :
    Grammar.gnu.Reads call.arguments call.flags :=
  Grammar.gnu.reads_parse call.arguments

@[simp] theorem arguments_withArguments (call : Call)
    (arguments : List String) :
    (call.withArguments arguments).arguments = arguments := rfl

@[simp] theorem entry_withArguments (call : Call) (arguments : List String)
    (flags : List Flag) (source : String) :
    (call.withArguments arguments).entry flags source =
      call.entry flags source := rfl

theorem haveWords_flags (call : Call) : Flags.HaveWords call.flags :=
  call.reads_flags.haveWords

theorem entriesFor_eq (call : Call) (haveWords : Flags.HaveWords flags)
    (sources : List String) :
    call.entriesFor flags sources = .ok (sources.map (call.entry flags)) := by
  induction sources with
  | nil => rfl
  | cons source rest induction =>
      simp [entriesFor, entryFor, entry, Flags.output?_eq haveWords,
        Flags.wordsFor_eq source haveWords, induction, bind, Except.bind,
        pure, Except.pure]

/-- A call which compiles has one entry for each source it names, in order;
any other call has none. -/
theorem entries_eq (call : Call) :
    call.entries = .ok (if Flags.compiles call.flags then
      (Flags.namedSources call.flags).map (call.entry call.flags) else []) := by
  have haveWords := call.haveWords_flags
  simp only [entries, analysis]
  rw [Flags.runCompilation_eq haveWords, Flags.sources_eq haveWords]
  cases compiles : Flags.compiles call.flags with
  | false => simp [bind, Except.bind, pure, Except.pure, Except.map]
  | true =>
      cases named : Flags.namedSources call.flags with
      | nil => simp [bind, Except.bind, pure, Except.pure, Except.map]
      | cons source rest =>
          simp [entriesFor_eq call haveWords, bind, Except.bind, pure,
            Except.pure, Except.map]

/-- Every call can be taken apart. -/
theorem exists_analysis (call : Call) :
    ∃ analysis, call.analysis = .ok analysis ∧
      call.entries = .ok analysis.entries := by
  have answered := call.entries_eq
  cases analyzed : call.analysis with
  | error fault => simp [entries, analyzed, Except.map] at answered
  | ok analysis => exact ⟨analysis, rfl, by rw [entries, analyzed]; rfl⟩

/-- An entry which stands at the place of a source is the entry for it. -/
theorem entry_of_mem_zip {sources : List String} {entries : List Entry}
    {source : String} {entry : Entry}
    (listed : Flags.sources call.flags = .ok sources)
    (answered : call.entries = .ok entries)
    (member : (source, entry) ∈ sources.zip entries) :
    sources = Flags.namedSources call.flags ∧ source ∈ sources ∧
      Flags.compiles call.flags = true ∧
        entry = call.entry call.flags source := by
  rw [Flags.sources_eq call.haveWords_flags, Except.ok.injEq] at listed
  rw [entries_eq, Except.ok.injEq] at answered
  subst sources entries
  cases compiles : Flags.compiles call.flags with
  | false => simp [compiles] at member
  | true =>
      rw [compiles, if_pos rfl, ← List.map_prod_left_eq_zip,
        List.mem_map] at member
      obtain ⟨named, listed, equality⟩ := member
      cases equality
      exact ⟨rfl, listed, rfl, rfl⟩

end Call

end CompilerCalls
