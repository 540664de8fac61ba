import CompilerCalls.Proofs.Flag.Cursor

/-!
# Calls written one behind the other

Two lists of words, one behind the other, fall into the flags of the first and
the flags of the second, unless the first one ends in a word that is no value
itself and takes the next word.  Such a word is read anew: it makes one flag
with the first word of the second list, and the other flags on both sides stay
as they are.
-/

namespace CompilerCalls

namespace Grammar

variable {grammar : Grammar} {tokens others : List String}
  {word next : String} {flag : Flag} {category : Category}

/-- No word is taken over the boundary between two lists of words. -/
inductive Separate (grammar : Grammar) :
    List String → List String → Prop where
  | noneBefore {others : List String} : Separate grammar [] others
  | noneBehind {tokens : List String} : Separate grammar tokens []
  /-- The last word is the value of a flag. -/
  | endsInValue {tokens others : List String} {before : List Flag}
      {last : Flag} :
      grammar.parse tokens = before ++ [last] →
      last.tokens.length = 2 →
      Separate grammar tokens others
  /-- The last word is not read as a flag with the next one. -/
  | notTaken {front rest : List String} {word next : String} :
      (∀ flag,
        Matcher.flag.readAt grammar [word, next] 0 = .ok (some flag) →
        flag.tokens.length ≠ 2) →
      Separate grammar (front ++ [word]) (next :: rest)

theorem readAt_pair_of_takesNext (takesNext : grammar.TakesNext word category)
    (next : String) :
    Matcher.flag.readAt grammar [word, next] 0 =
      .ok (some ⟨category, [word, next]⟩) := by
  have read := takesNext next
  rw [Matcher.readAt_of_lt _ (by simp)]
  cases selected : grammar.select? word (some next) with
  | none =>
      rw [read_of_select?_eq_none selected] at read
      simp at read
  | some selection =>
      rw [read_of_select? selected] at read
      simp [Matcher.read?, selected, read]

theorem takesNext_of_readAt_pair
    (read : Matcher.flag.readAt grammar [word, next] 0 = .ok (some flag))
    (two : flag.tokens.length = 2) :
    grammar.TakesNext word flag.category := by
  rw [Matcher.readAt_of_lt _ (by simp), Except.ok.injEq] at read
  obtain ⟨⟨rule, words⟩, selected, rfl⟩ := Option.map_eq_some_iff.mp read
  rcases Rule.take?_eq_some (select?_eq_some selected).2 with
    single | ⟨taken, present, pair⟩
  · obtain rfl : words = [word] := single
    simp at two
  · obtain rfl : next = taken := Option.some.inj present
    obtain rfl : words = [word, next] := pair
    exact takesNext_of_select? selected

/-- A flag which lacks its value is the last word of a call, and that word
takes the first one behind the call. -/
theorem Reads.crossing_of_lacksValue {flags : List Flag}
    (reads : Reads grammar tokens flags) (member : flag ∈ flags)
    (lacksValue : grammar.LacksValue flag) :
    ∃ before word category, flags = before ++ [flag] ∧
      flag.tokens = [word] ∧ tokens = Flags.words before ++ [word] ∧
      grammar.TakesNext word category ∧
      ∀ next rest, grammar.parse (tokens ++ next :: rest) =
        before ++ ⟨category, [word, next]⟩ :: grammar.parse rest := by
  obtain ⟨before, word, category, rfl, takesNext, lone, crossing⟩ :=
    reads.waiting_of_lacksValue member lacksValue
  obtain ⟨fallback, alone⟩ := grammar.exists_read_none word
  have single : flag.tokens = [word] := by rw [← lone, alone]
  have words : tokens = Flags.words before ++ [word] := by
    rw [← reads.words_eq]
    simp [single]
  exact ⟨before, word, category, rfl, single, words, takesNext, crossing⟩

/-- At a boundary which no word is taken over, no flag in front lacks its
value. -/
theorem Separate.complete {flag : Flag}
    (separate : grammar.Separate tokens others) (followed : others ≠ [])
    (member : flag ∈ grammar.parse tokens) : ¬grammar.LacksValue flag := by
  intro lacksValue
  have reads := grammar.reads_parse tokens
  obtain ⟨before, word, category, flags, single, words, takesNext, _⟩ :=
    reads.crossing_of_lacksValue member lacksValue
  cases separate with
  | noneBefore => simp at member
  | noneBehind => exact followed rfl
  | endsInValue parsed two =>
      rw [parsed] at flags
      obtain ⟨_, same⟩ := List.append_inj' flags rfl
      obtain rfl := List.singleton_inj.mp same
      simp [single] at two
  | @notTaken front rest last next alone =>
      obtain ⟨_, same⟩ := List.append_inj' words rfl
      obtain rfl := List.singleton_inj.mp same
      exact alone _ (readAt_pair_of_takesNext takesNext next) rfl

theorem separate_of_complete
    (complete : ∀ flag ∈ grammar.parse tokens, ¬grammar.LacksValue flag) :
    grammar.Separate tokens others := by
  have reads := grammar.reads_parse tokens
  have words := reads.words_eq
  cases others with
  | nil => exact .noneBehind
  | cons next rest =>
      rcases List.eq_nil_or_concat (grammar.parse tokens) with
        empty | ⟨before, last, flags⟩
      · rw [empty] at words
        rw [← words]
        exact .noneBefore
      rw [List.concat_eq_append] at flags
      have listed : last ∈ grammar.parse tokens := by simp [flags]
      rcases reads.single_or_pair listed with
        ⟨word, single⟩ | ⟨word, value, pair, _⟩
      · rw [flags, Flags.words_append, Flags.words_cons, single] at words
        rw [← words]
        refine .notTaken fun flag read two => ?_
        have takesNext := takesNext_of_readAt_pair read two
        exact complete last listed ⟨word, flag.category, single, takesNext⟩
      · exact .endsInValue flags (by simp [pair])

/-- A word is taken over a boundary when words follow and a flag in front
lacks its value. -/
theorem exists_lacksValue_of_not_separate
    (notSeparate : ¬grammar.Separate tokens others) :
    ∃ next rest, others = next :: rest ∧
      ∃ flag ∈ grammar.parse tokens, grammar.LacksValue flag := by
  have followed : others ≠ [] := by
    rintro rfl
    exact notSeparate .noneBehind
  obtain ⟨next, rest, behind⟩ := List.exists_cons_of_ne_nil followed
  refine ⟨next, rest, behind, ?_⟩
  by_contra complete
  simp only [not_exists, not_and] at complete
  exact notSeparate (separate_of_complete complete)

/-- Two lists of words are read side by side just when no word is taken over
the boundary between them.  Otherwise the last word of the first list and the
first word of the second one make a flag, and nothing else changes. -/
theorem parse_append (grammar : Grammar) (tokens others : List String) :
    (grammar.Separate tokens others ↔
      grammar.parse (tokens ++ others) =
        grammar.parse tokens ++ grammar.parse others) ∧
    (¬grammar.Separate tokens others →
      ∃ front word next rest flag,
        tokens = front ++ [word] ∧ others = next :: rest ∧
        Matcher.flag.readAt grammar [word, next] 0 = .ok (some flag) ∧
        flag.tokens = [word, next] ∧
        grammar.parse (tokens ++ others) =
          (grammar.parse tokens).dropLast ++ flag :: grammar.parse rest) := by
  have reads := grammar.reads_parse tokens
  refine ⟨⟨?_, ?_⟩, ?_⟩
  · intro separate
    by_cases followed : others = []
    · simp [followed]
    · exact (reads.append (grammar.reads_parse others) fun _ member =>
        separate.complete followed member).parse_eq
  · intro apart
    by_contra notSeparate
    obtain ⟨next, rest, rfl, flag, member, lacksValue⟩ :=
      exists_lacksValue_of_not_separate notSeparate
    exact reads.parse_append_ne member lacksValue next rest _ apart
  · intro notSeparate
    obtain ⟨next, rest, rfl, flag, member, lacksValue⟩ :=
      exists_lacksValue_of_not_separate notSeparate
    obtain ⟨before, word, category, flags, _, words, takesNext, crossing⟩ :=
      reads.crossing_of_lacksValue member lacksValue
    refine ⟨Flags.words before, word, next, rest,
      ⟨category, [word, next]⟩, words, rfl,
      readAt_pair_of_takesNext takesNext next, rfl, ?_⟩
    rw [crossing, flags, List.dropLast_concat]

/-- A value which looks like a flag ends a list of words; a flag at the end
takes over the first word behind it. -/
theorem parse_append_behind_value_and_flag :
    gnu.parse (["-o", "-I"] ++ ["x"]) =
        [⟨.outputPath, ["-o", "-I"]⟩] ++ [⟨.source, ["x"]⟩] ∧
      ¬gnu.Separate ["a.c", "-dumpbase"] ["-c", "b.c"] ∧
      ∃ flag,
        Matcher.flag.readAt gnu ["-dumpbase", "-c"] 0 = .ok (some flag) ∧
        gnu.parse (["a.c", "-dumpbase"] ++ ["-c", "b.c"]) =
          [⟨.source, ["a.c"]⟩] ++ flag :: [⟨.source, ["b.c"]⟩] := by
  have ended : gnu.parse ["-o", "-I"] =
      [] ++ [⟨.outputPath, ["-o", "-I"]⟩] := by
    decide +kernel
  have apart := (gnu.parse_append ["-o", "-I"] ["x"]).1.mp
    (.endsInValue ended rfl)
  obtain ⟨separate_iff_apart, joined⟩ :=
    gnu.parse_append ["a.c", "-dumpbase"] ["-c", "b.c"]
  have crossed : ¬gnu.Separate ["a.c", "-dumpbase"] ["-c", "b.c"] := by
    intro separate
    exact absurd (separate_iff_apart.mp separate) (by decide +kernel)
  obtain ⟨front, word, next, rest, flag, words, behind, read, _, parsed⟩ :=
    joined crossed
  have lastWords : ["a.c"] ++ ["-dumpbase"] = front ++ [word] := words
  obtain ⟨rfl, same⟩ := List.append_inj' lastWords rfl
  obtain rfl := List.singleton_inj.mp same
  obtain ⟨rfl, rfl⟩ := List.cons.inj behind
  have before : (gnu.parse ["a.c", "-dumpbase"]).dropLast =
      [⟨.source, ["a.c"]⟩] := by
    decide +kernel
  have after : gnu.parse ["b.c"] = [⟨.source, ["b.c"]⟩] := by
    decide +kernel
  refine ⟨?_, crossed, flag, read, by rw [parsed, before, after]⟩
  rw [apart]
  decide +kernel

end Grammar

end CompilerCalls
