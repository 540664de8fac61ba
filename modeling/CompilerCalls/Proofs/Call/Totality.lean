import CompilerCalls.Proofs.Call.Answers
import CompilerCalls.Proofs.Flag.Cursor
import Mathlib.Control.Monad.Basic

/-!
# Every call is answered

Flags which are made by hand may lack words, and then a question about them
may have no answer.  The flags of a list of words never do: at each word some
way to read a flag takes at least that word.  So whatever the words are, no
question about a call fails, and each of its entries names places which depend
on no other directory.
-/

namespace CompilerCalls

/-- The places of an entry are absolute, for a call which ran in a
directory. -/
structure Entry.PlacedBy (directory : Path) (entry : Entry) : Prop where
  file : entry.file.isAbsolute = true
  sameDirectory : entry.directory = directory
  directory : entry.directory.isAbsolute = true
  output : ∀ output, entry.output = some output → output.isAbsolute = true

/-- Every question about flags has an answer. -/
structure Flags.Answered (flags : List Flag) : Prop where
  runCompilation : ∃ runs, runCompilation flags = .ok runs
  sources : ∃ found, sources flags = .ok found
  output : ∃ output?, Flags.output? flags = .ok output?
  wordsFor : ∀ source, ∃ words, wordsFor source flags = .ok words
  value : ∀ flag ∈ flags, ∃ value, flag.value = .ok value

theorem Flag.exists_value {flag : Flag} (hasWords : flag.tokens ≠ []) :
    ∃ value, flag.value = .ok value := by
  unfold Flag.value
  split
  · rename_i empty
    exact absurd (List.getLast?_eq_none_iff.mp empty) hasWords
  · exact ⟨_, rfl⟩

/-- Flags which all have words leave no question open. -/
theorem Flags.HaveWords.answered {flags : List Flag}
    (haveWords : HaveWords flags) : Answered flags where
  runCompilation := ⟨_, runCompilation_eq haveWords⟩
  sources := ⟨_, sources_eq haveWords⟩
  output := ⟨_, output?_eq haveWords⟩
  wordsFor source := ⟨_, wordsFor_eq source haveWords⟩
  value flag member := Flag.exists_value (haveWords flag member)

theorem Grammar.exists_readsAt (grammar : Grammar) {tokens : List String}
    {position : Nat} (within : position < tokens.length) :
    ∃ flag, grammar.ReadsAt tokens position flag ∧ 1 ≤ flag.tokens.length := by
  refine ⟨_, (readsAt_iff within).mpr rfl, ?_⟩
  rcases grammar.tokens_read tokens[position] tokens[position + 1]? with
    single | ⟨next, _, pair⟩
  · simp [single]
  · simp [pair]

namespace Call

/-- What is made of a written path in the directory of a call is absolute,
also of the empty path, of a dot, and of a path with two slashes in front. -/
theorem isAbsolute_placed (call : Call) (written : String) :
    ((Path.ofString written).absoluteIn call.directory).isAbsolute = true :=
  Path.isAbsolute_absoluteIn _ call.directory_isAbsolute

theorem placedBy_entry (call : Call) (flags : List Flag) (source : String) :
    (call.entry flags source).PlacedBy call.directory where
  file := call.isAbsolute_placed source
  sameDirectory := rfl
  directory := call.directory_isAbsolute
  output output present := by
    obtain ⟨written, _, rfl⟩ := Option.map_eq_some_iff.mp present
    exact call.isAbsolute_placed written

/-- No words lead to a fault.  Any grammar reads a flag at each word, and the
flags of any words answer every question; every call has its entries, all of
them at absolute places in the directory of the call. -/
theorem answered_for_any_words :
    (∀ (grammar : Grammar) (tokens : List String),
      (∀ position < tokens.length, ∃ flag,
        grammar.ReadsAt tokens position flag ∧ 1 ≤ flag.tokens.length) ∧
      grammar.Scan tokens 0 (grammar.parse tokens) ∧
      Flags.Answered (grammar.parse tokens)) ∧
    ∀ call : Call, ∃ entries, call.entries = .ok entries ∧
      ∀ entry ∈ entries, entry.PlacedBy call.directory := by
  constructor
  · intro grammar tokens
    exact ⟨fun _ within => grammar.exists_readsAt within,
      Grammar.scan_iff.mpr rfl, (grammar.reads_parse tokens).haveWords.answered⟩
  · intro call
    refine ⟨_, call.entries_eq, ?_⟩
    intro entry member
    split at member
    · obtain ⟨source, _, rfl⟩ := List.mem_map.mp member
      exact call.placedBy_entry call.flags source
    · contradiction

theorem answered_for_any_words_of_odd_paths :
    (∃ flag, Grammar.gnu.ReadsAt ["", "//x.c", "-o", "."] 2 flag ∧
      1 ≤ flag.tokens.length) ∧
    ∃ entries,
      (launched "gcc" ["", "//x.c", "-o", "."] (Path.ofString "/w") rfl {}
        none).entries = .ok entries ∧
      (⟨Path.ofString "//x.c", Path.ofString "/w", some (Path.ofString "/w"),
        ["gcc", "-c", "//x.c", "-o", "."]⟩ : Entry) ∈ entries ∧
      (Path.ofString "//x.c").isAbsolute = true := by
  obtain ⟨readable, answered⟩ := answered_for_any_words
  refine ⟨(readable Grammar.gnu ["", "//x.c", "-o", "."]).1 2 (by decide), ?_⟩
  obtain ⟨entries, listed, placed⟩ := answered
    (launched "gcc" ["", "//x.c", "-o", "."] (Path.ofString "/w") rfl {} none)
  have computed :
      (launched "gcc" ["", "//x.c", "-o", "."] (Path.ofString "/w") rfl {}
        none).entries =
        .ok [⟨Path.ofString "/w", Path.ofString "/w",
            some (Path.ofString "/w"), ["gcc", "-c", "", "-o", "."]⟩,
          ⟨Path.ofString "//x.c", Path.ofString "/w",
            some (Path.ofString "/w"), ["gcc", "-c", "//x.c", "-o", "."]⟩] := by
    decide +kernel
  obtain rfl := Except.ok.inj (listed.symm.trans computed)
  have last := List.mem_cons_of_mem
    (⟨Path.ofString "/w", Path.ofString "/w", some (Path.ofString "/w"),
      ["gcc", "-c", "", "-o", "."]⟩ : Entry)
    (List.mem_singleton_self (⟨Path.ofString "//x.c", Path.ofString "/w",
      some (Path.ofString "/w"), ["gcc", "-c", "//x.c", "-o", "."]⟩ : Entry))
  exact ⟨_, listed, last, (placed _ last).file⟩

end Call

end CompilerCalls
