import CompilerCalls.Proofs.Call.Suppression

/-!
# Flags beside the compilation

Flags for the linker, and flags which write dependencies beside the output, can
be put between any two flags of a call.  They neither take a word of the call
nor lend it one, since a flag which lacks its value is never read as one of
them.  They do not stop the call, they name no source and no output, and they
are left out of each call for one source: the entries are the same.
-/

namespace CompilerCalls

namespace Flag

/-- The flag is about linking, or about dependencies which are written while
the sources are compiled. -/
def IsAside (flag : Flag) : Prop :=
  flag.category = .linker ∨ flag.category = .librarySearch ∨
    flag.category = .dependencies ∧
      flag.tokens.head? ≠ some "-M" ∧ flag.tokens.head? ≠ some "-MM"

instance (flag : Flag) : Decidable flag.IsAside :=
  inferInstanceAs (Decidable (_ ∨ _ ∨ _ ∧ _ ∧ _))

/-- The flag is left out for every source, and does not stop the call. -/
structure LeftOut (flag : Flag) : Prop where
  dropped : Gnu.dropped flag.category = true
  goesOn : flag.stops = false

variable {flag : Flag}

theorem LeftOut.keptFor_eq (leftOut : flag.LeftOut) (source : String) :
    flag.keptFor source = false := by
  simp [keptFor, leftOut.dropped]

theorem LeftOut.category_ne (leftOut : flag.LeftOut) (category : Category)
    (kept : Gnu.dropped category = false) : flag.category ≠ category := by
  rintro rfl
  exact Bool.false_ne_true (kept.symm.trans leftOut.dropped)

theorem LeftOut.namedSource?_eq (leftOut : flag.LeftOut) :
    flag.namedSource? = none := by
  simp [namedSource?, leftOut.category_ne .source rfl]

end Flag

namespace Flags

variable {before inserted behind : List Flag}

theorem namedSources_insert (leftOut : ∀ flag ∈ inserted, flag.LeftOut) :
    namedSources (before ++ (inserted ++ behind)) =
      namedSources (before ++ behind) := by
  have unnamed : inserted.filterMap Flag.namedSource? = [] :=
    List.filterMap_eq_nil_iff.mpr fun flag member =>
      (leftOut flag member).namedSource?_eq
  simp [namedSources, unnamed]

/-- A call which names a source has flags, and the inserted ones do not stop
it. -/
theorem compiles_insert (leftOut : ∀ flag ∈ inserted, flag.LeftOut)
    (named : namedSources (before ++ behind) ≠ []) :
    compiles (before ++ (inserted ++ behind)) =
      compiles (before ++ behind) := by
  have nonempty : before ++ behind ≠ [] := by
    intro empty
    exact named (by simp [empty, namedSources])
  have goOn : inserted.all (!·.stops) = true :=
    List.all_eq_true.mpr fun flag member => by
      simp [(leftOut flag member).goesOn]
  have stillNonempty : before ++ (inserted ++ behind) ≠ [] := by
    intro empty
    simp only [List.append_eq_nil_iff] at empty
    exact nonempty (List.append_eq_nil_iff.mpr ⟨empty.1, empty.2.2⟩)
  unfold compiles
  rw [List.isEmpty_eq_false_iff.mpr nonempty,
    List.isEmpty_eq_false_iff.mpr stillNonempty]
  simp [goOn]

theorem outputWord?_insert (leftOut : ∀ flag ∈ inserted, flag.LeftOut) :
    outputWord? (before ++ (inserted ++ behind)) =
      outputWord? (before ++ behind) := by
  have noOutput : inserted.find? (·.category == .outputPath) = none :=
    List.find?_eq_none.mpr fun flag member => by
      simp [(leftOut flag member).category_ne .outputPath rfl]
  simp [outputWord?, List.find?_append, noOutput]

theorem rebuilt_insert (leftOut : ∀ flag ∈ inserted, flag.LeftOut)
    (source : String) :
    rebuilt source (before ++ (inserted ++ behind)) =
      rebuilt source (before ++ behind) := by
  have noKept : inserted.filter (Flag.keptFor source) = [] :=
    List.filter_eq_nil_iff.mpr fun flag member => by
      simp [(leftOut flag member).keptFor_eq source]
  have noGuard : inserted.any (·.category == .noLinking) = false :=
    List.any_eq_false.mpr fun flag member => by
      simp [(leftOut flag member).category_ne .noLinking rfl]
  simp [rebuilt, guardFlags, noKept, noGuard]

end Flags

namespace Grammar

variable {tokens : List String} {flags : List Flag} {flag : Flag}

theorem Reads.leftOut_of_isAside (reads : Reads gnu tokens flags)
    (member : flag ∈ flags) (aside : flag.IsAside) : flag.LeftOut := by
  rcases aside with linker | library | ⟨dependencies, notM, notMM⟩
  · exact ⟨by simp [linker, Gnu.dropped], by simp [Flag.stops, linker]⟩
  · exact ⟨by simp [library, Gnu.dropped], by simp [Flag.stops, library]⟩
  · refine ⟨by simp [dependencies, Gnu.dropped], ?_⟩
    rw [← Bool.not_eq_true, reads.stops_iff member]
    rintro (query | rfl | rfl)
    · simp [dependencies] at query
    · exact notM rfl
    · exact notMM rfl

/-- No flag beside the compilation waits for a value. -/
theorem Reads.not_lacksValue_of_isAside (reads : Reads gnu tokens flags)
    (member : flag ∈ flags) (aside : flag.IsAside) :
    ¬gnu.LacksValue flag := by
  intro lacksValue
  rcases reads.category_of_lacksValue member lacksValue with source | other
  · simp [Flag.IsAside, source] at aside
  · simp [Flag.IsAside, other] at aside

/-- Flags beside the compilation are read as themselves between the flags of a
call, unless they stand behind a flag which waits for a value. -/
theorem parse_insert_aside {before behind : List Flag}
    {inserted : List String} (parsed : gnu.parse tokens = before ++ behind)
    (aside : ∀ flag ∈ gnu.parse inserted, flag.IsAside)
    (place : behind ≠ [] ∨ before = [] ∨
      gnu.parse (Flags.words before ++ inserted) =
        before ++ gnu.parse inserted) :
    gnu.parse (Flags.words before ++ (inserted ++ Flags.words behind)) =
      before ++ (gnu.parse inserted ++ behind) := by
  have reads : gnu.Reads tokens (before ++ behind) := reads_iff.mpr parsed
  have readsInserted := gnu.reads_parse inserted
  have together := readsInserted.append reads.behind fun flag member =>
    readsInserted.not_lacksValue_of_isAside member (aside flag member)
  by_cases followed : behind = []
  · rcases place with notLast | rfl | apart
    · exact (notLast followed).elim
    · exact together.parse_eq
    · subst behind
      simpa using apart
  · exact (reads.replace_behind followed together).parse_eq

end Grammar

namespace Call

/-- Words which are read as flags beside the compilation can be inserted
between any two flags of a call, and behind a call which does not wait for a
value: the entries stay the same. -/
theorem entries_insert_aside (call : Call) {before behind : List Flag}
    (split : call.flags = before ++ behind) {inserted : List String}
    (aside : ∀ flag ∈ Grammar.gnu.parse inserted, flag.IsAside)
    (place : behind ≠ [] ∨ before = [] ∨
      Grammar.gnu.parse (Flags.words before ++ inserted) =
        before ++ Grammar.gnu.parse inserted) :
    ∃ entries, call.entries = .ok entries ∧
      (call.withArguments
        (Flags.words before ++ (inserted ++ Flags.words behind))).entries =
          .ok entries := by
  have flags : (call.withArguments
      (Flags.words before ++ (inserted ++ Flags.words behind))).flags =
        before ++ (Grammar.gnu.parse inserted ++ behind) :=
    Grammar.parse_insert_aside split aside place
  have leftOut : ∀ flag ∈ Grammar.gnu.parse inserted, flag.LeftOut :=
    fun flag member => (Grammar.gnu.reads_parse inserted).leftOut_of_isAside
      member (aside flag member)
  refine ⟨_, call.entries_eq, ?_⟩
  rw [entries_eq, flags, split, Flags.namedSources_insert leftOut]
  have sameEntry : (call.withArguments
      (Flags.words before ++ (inserted ++ Flags.words behind))).entry
        (before ++ (Grammar.gnu.parse inserted ++ behind)) =
      call.entry (before ++ behind) := by
    funext source
    rw [entry_withArguments]
    simp only [entry, Flags.outputWord?_insert leftOut,
      Flags.rebuilt_insert leftOut]
  rw [sameEntry]
  by_cases named : Flags.namedSources (before ++ behind) = []
  · simp [named]
  · rw [Flags.compiles_insert leftOut named]

/-- The value of an inserted flag may look like a question.  Behind the call
the words stand apart, since the last flag of the call has its value. -/
theorem entries_insert_aside_at_end :
    let call := launched "gcc" ["a.c", "-o", "x"] Path.root rfl {} none
    call.flags =
        [⟨.source, ["a.c"]⟩, ⟨.outputPath, ["-o", "x"]⟩] ++ [] ∧
      (∀ flag ∈ Grammar.gnu.parse ["-lm", "-MF", "-M", "-L", "."],
        flag.IsAside) ∧
      Grammar.gnu.parse (["a.c", "-o", "x"] ++
          ["-lm", "-MF", "-M", "-L", "."]) =
        [⟨.source, ["a.c"]⟩, ⟨.outputPath, ["-o", "x"]⟩] ++
          Grammar.gnu.parse ["-lm", "-MF", "-M", "-L", "."] ∧
      ∃ entries, call.entries = .ok entries ∧
        (call.withArguments (["a.c", "-o", "x"] ++
          ["-lm", "-MF", "-M", "-L", "."])).entries = .ok entries := by
  intro call
  have split : call.flags =
      [⟨.source, ["a.c"]⟩, ⟨.outputPath, ["-o", "x"]⟩] ++ [] := by
    decide +kernel
  have aside : ∀ flag ∈
      Grammar.gnu.parse ["-lm", "-MF", "-M", "-L", "."], flag.IsAside := by
    decide +kernel
  have apart : Grammar.gnu.parse (["a.c", "-o", "x"] ++
        ["-lm", "-MF", "-M", "-L", "."]) =
      [⟨.source, ["a.c"]⟩, ⟨.outputPath, ["-o", "x"]⟩] ++
        Grammar.gnu.parse ["-lm", "-MF", "-M", "-L", "."] := by
    decide +kernel
  have same := call.entries_insert_aside split aside (Or.inr (Or.inr apart))
  exact ⟨split, aside, apart, same⟩

end Call

end CompilerCalls
