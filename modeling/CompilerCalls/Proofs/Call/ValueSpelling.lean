import CompilerCalls.Proofs.Call.OpaqueValues
import CompilerCalls.Proofs.Flag.GluedValue

/-!
# Two spellings of a value

A flag which takes its value in both forms says the same in both: `-o x` and
`-ox` name the same output.  Moving the value from one form to the other
changes the flags of a call at this flag alone.  The call compiles the same
sources to the same output, and its entries differ in the words of that flag
only, as far as the flag is kept.
-/

namespace CompilerCalls

namespace Gnu

theorem length_key_of_outputPath :
    ∀ rule ∈ rules, rule.category = .outputPath → rule.key.length = 2 := by
  decide +kernel

/-- A flag with a value in both forms never begins like a word which stops the
call. -/
theorem not_prefix_stopWord :
    ∀ rule ∈ rules, rule.mode = .both → rule.arity = 1 →
      ∀ word ∈ stopWords, ¬rule.key.toList <+: word.toList := by
  decide +kernel

end Gnu

namespace Flag

/-- Two flags are alike, and for the output they name the same one. -/
structure SpellAlike (left right : Flag) : Prop
    extends left.Alike right where
  outputWord : left.category = .outputPath →
    right.outputWord = left.outputWord

theorem SpellAlike.symm {left right : Flag} (alike : left.SpellAlike right) :
    right.SpellAlike left := by
  constructor
  · constructor
    · exact alike.category.symm
    · rw [alike.category]
      exact alike.notSource
    · exact alike.stops.symm
  · intro isOutput
    exact (alike.outputWord (alike.category.symm.trans isOutput)).symm

variable {rule : Rule}

theorem stops_of_leading_key (either : Gnu.TakesEither rule)
    {token : String} (beginning : rule.key.toList <+: token.toList)
    (values : List String) :
    stops ⟨rule.category, token :: values⟩ = (rule.category == .query) := by
  have goesOn : token ∉ Gnu.stopWords := fun stopWord =>
    Gnu.not_prefix_stopWord rule either.listed either.mode either.arity token
      stopWord beginning
  simp [stops, goesOn]

theorem spellAlike_of_takesEither (either : Gnu.TakesEither rule)
    (value : String) :
    SpellAlike ⟨rule.category, [rule.key, value]⟩
      ⟨rule.category, [rule.key ++ value]⟩ := by
  constructor
  · constructor
    · rfl
    · exact Gnu.category_ne_source rule either.listed
    · rw [stops_of_leading_key either List.prefix_rfl,
        stops_of_leading_key either]
      rw [String.toList_append]
      exact List.prefix_append _ _
  · intro isOutput
    have two := Gnu.length_key_of_outputPath rule either.listed isOutput
    rw [← String.length_toList] at two
    simp [outputWord, String.toList_append, ← two]

end Flag

namespace Flags

variable {before behind : List Flag} {flag other : Flag}

/-- Another spelling of a flag names the same output, whether or not it is the
first flag for it. -/
theorem outputWord?_respell (alike : flag.SpellAlike other) :
    outputWord? (before ++ other :: behind) =
      outputWord? (before ++ flag :: behind) := by
  by_cases isOutput : flag.category = .outputPath
  · have otherIsOutput : other.category = .outputPath :=
      alike.category.trans isOutput
    unfold outputWord?
    rw [List.find?_append, List.find?_append]
    cases before.find? (·.category == .outputPath) with
    | some first => rfl
    | none => simp [isOutput, otherIsOutput, alike.outputWord isOutput]
  · exact outputWord?_replace alike.toAlike fun output =>
      (isOutput output).elim

end Flags

namespace Call

/-- Two calls which differ at most in how one flag is written compile the same
sources to the same outputs. -/
structure RespelledAt (call changed : Call) (before : List Flag)
    (flag other : Flag) : Prop
    extends call.DifferAt changed before flag other where
  output : Flags.output? changed.flags = Flags.output? call.flags
  outputs : ∃ entries changedEntries,
    call.entries = .ok entries ∧ changed.entries = .ok changedEntries ∧
    changedEntries.map Entry.output = entries.map Entry.output

variable {call : Call} {before behind : List Flag} {flag other : Flag}

theorem respelledAt_withArguments {arguments : List String}
    (alike : flag.SpellAlike other)
    (flags : call.flags = before ++ flag :: behind)
    (changedFlags :
      Grammar.gnu.parse arguments = before ++ other :: behind) :
    call.RespelledAt (call.withArguments arguments) before flag other := by
  have changedIs : (call.withArguments arguments).flags =
      before ++ other :: behind := changedFlags
  constructor
  · exact differAt_withArguments alike.toAlike flags changedFlags
  · rw [Flags.output?_eq (haveWords_flags _),
      Flags.output?_eq (haveWords_flags _), changedIs, flags,
      Flags.outputWord?_respell alike]
  · refine ⟨_, _, call.entries_eq, entries_eq _, ?_⟩
    rw [changedIs, flags, Flags.compiles_replace alike.toAlike,
      Flags.namedSources_replace alike.toAlike]
    split
    · simp [entry, Flags.outputWord?_respell alike, Function.comp_def,
        withArguments]
    · rfl

end Call

namespace Grammar

/-- Glued and separate spellings agree.  A value which is not empty can be
moved into the word of its flag, and back out of it unless it has to be there.
The flags around it and its category stay, the call compiles the same sources
to the same outputs, and the entries differ at most in the words of this
flag. -/
theorem parse_respell_value {rule : Rule} (listed : rule ∈ Gnu.rules)
    (both : rule.mode = .both) (one : rule.arity = 1) {value : String}
    (nonempty : value ≠ "") (before behind : List Flag)
    (category : Category) :
    let apart := Flags.words before ++
      rule.key :: value :: Flags.words behind
    let glued := Flags.words before ++
      (rule.key ++ value) :: Flags.words behind
    let flagApart : Flag := ⟨category, [rule.key, value]⟩
    let flagGlued : Flag := ⟨category, [rule.key ++ value]⟩
    (∀ tokens, gnu.parse tokens = before ++ flagApart :: behind →
      tokens = apart ∧
      gnu.parse glued = before ++ flagGlued :: behind ∧
      ∀ call : Call, call.arguments = tokens →
        call.RespelledAt (call.withArguments glued) before flagApart
          flagGlued) ∧
    (rule.sticky = false →
      ∀ tokens, gnu.parse tokens = before ++ flagGlued :: behind →
        tokens = glued ∧
        gnu.parse apart = before ++ flagApart :: behind ∧
        ∀ call : Call, call.arguments = tokens →
          call.RespelledAt (call.withArguments apart) before flagGlued
            flagApart) := by
  intro apart glued flagApart flagGlued
  have either : Gnu.TakesEither rule := ⟨listed, both, one⟩
  have alike := Flag.spellAlike_of_takesEither either value
  constructor
  · intro tokens parsed
    have reads := reads_iff.mpr parsed
    obtain ⟨rfl, respelled⟩ := reads.glue_value either nonempty
    refine ⟨?_, respelled.parse_eq, ?_⟩
    · simpa [flagApart] using reads.words_eq.symm
    · rintro call rfl
      exact call.respelledAt_withArguments alike parsed respelled.parse_eq
  · intro loose tokens parsed
    have reads := reads_iff.mpr parsed
    obtain ⟨rfl, respelled⟩ := reads.split_value either loose nonempty
    refine ⟨?_, respelled.parse_eq, ?_⟩
    · simpa [flagGlued] using reads.words_eq.symm
    · rintro call rfl
      exact call.respelledAt_withArguments alike.symm parsed
        respelled.parse_eq

/-- A value which looks like a flag keeps its meaning in both spellings. -/
theorem parse_respell_value_like_flag :
    let call := Call.launched "gcc" ["a.c", "-o", "-c", "-g"] Path.root rfl {}
      none
    let changed := call.withArguments ["a.c", "-o-c", "-g"]
    (⟨"-o", 1, .both, .outputPath, false⟩ : Rule) ∈ Gnu.rules ∧ "-c" ≠ "" ∧
      gnu.parse ["a.c", "-o", "-c", "-g"] =
        [⟨.source, ["a.c"]⟩] ++ ⟨.outputPath, ["-o", "-c"]⟩ ::
          [⟨.other, ["-g"]⟩] ∧
      gnu.parse ["a.c", "-o-c", "-g"] =
        [⟨.source, ["a.c"]⟩] ++ ⟨.outputPath, ["-o-c"]⟩ ::
          [⟨.other, ["-g"]⟩] ∧
      call.RespelledAt changed [⟨.source, ["a.c"]⟩]
        ⟨.outputPath, ["-o", "-c"]⟩ ⟨.outputPath, ["-o-c"]⟩ ∧
      changed.RespelledAt call [⟨.source, ["a.c"]⟩]
        ⟨.outputPath, ["-o-c"]⟩ ⟨.outputPath, ["-o", "-c"]⟩ := by
  intro call changed
  have listed : (⟨"-o", 1, .both, .outputPath, false⟩ : Rule) ∈ Gnu.rules := by
    decide +kernel
  have nonempty : "-c" ≠ "" := by decide
  have parsed : gnu.parse ["a.c", "-o", "-c", "-g"] =
      [⟨.source, ["a.c"]⟩] ++ ⟨.outputPath, ["-o", "-c"]⟩ ::
        [⟨.other, ["-g"]⟩] := by
    decide +kernel
  obtain ⟨glue, split⟩ := parse_respell_value listed rfl rfl nonempty
    [⟨.source, ["a.c"]⟩] [⟨.other, ["-g"]⟩] .outputPath
  obtain ⟨_, glued, respelled⟩ := glue _ parsed
  obtain ⟨_, _, respelledBack⟩ := split rfl _ glued
  exact ⟨listed, nonempty, parsed, glued, respelled call rfl,
    respelledBack changed rfl⟩

end Grammar

end CompilerCalls
