import CompilerCalls.Flag.Reading

/-!
# What the word behind a flag can change

A row which is passed over although a word follows is passed over without one
too, and a row which needs no further word needs none whatever follows.  So a
word either stands alone in front of every other word, or it takes any word
that follows it; only in the second case does its reading depend on whether it
is the last one.
-/

namespace CompilerCalls

namespace Rule

variable {rule : Rule} {token next : String}

theorem take?_of_singleton
    (taken : rule.take? token (some next) = some [token])
    (next? : Option String) : rule.take? token next? = some [token] := by
  unfold take? at taken ⊢
  split
  · rfl
  · rename_i valued
    rw [if_neg valued] at taken
    split
    · rfl
    · rename_i separate
      rw [if_neg separate] at taken
      split at taken <;> simp at taken

/-- A row which takes a second word is spelled in full by the first one, and
it needs a value that may stand apart. -/
theorem take?_eq_pair_iff {other : String} :
    rule.take? token (some next) = some [token, other] ↔
      rule.arity ≠ 0 ∧ token.length ≤ rule.key.length ∧
        rule.sticky = false ∧ next = other := by
  unfold take?
  by_cases plain : rule.arity = 0
  · simp [plain]
  · by_cases glued : rule.key.length < token.length
    · have notWhole : ¬token.length ≤ rule.key.length := by omega
      simp [plain, glued, notWhole]
    · have whole : token.length ≤ rule.key.length := by omega
      cases sticky : rule.sticky <;> simp [plain, glued, whole]

theorem take?_eq_none_of_followed
    (passed : rule.take? token (some next) = none)
    (next? : Option String) : rule.take? token next? = none := by
  unfold take? at passed ⊢
  split at passed
  · contradiction
  · rename_i valued
    split at passed
    · contradiction
    · rename_i separate
      split at passed
      · rename_i sticky
        simp [valued, separate, sticky]
      · simp at passed

end Rule

namespace Grammar

variable {grammar : Grammar} {token : String} {next? other? : Option String}

/-- A selected row stays selected behind the same rows, when it still finds
its value and the rows before it still do not. -/
theorem select?_transfer {rule : Rule} {tokens others : List String}
    (selected : grammar.select? token next? = some (rule, tokens))
    (passed : ∀ row : Rule, row.take? token next? = none →
      row.take? token other? = none)
    (taken : rule.take? token other? = some others) :
    grammar.select? token other? = some (rule, others) := by
  unfold select? at selected ⊢
  obtain ⟨before, row, behind, candidates, found, skipped⟩ :=
    List.findSome?_eq_some_iff.mp selected
  have same : row = rule := by
    obtain ⟨words, _, equality⟩ := Option.map_eq_some_iff.mp found
    exact congrArg Prod.fst equality
  subst row
  apply List.findSome?_eq_some_iff.mpr
  refine ⟨before, rule, behind, candidates, by simp [taken], ?_⟩
  intro row member
  have rowPassed : row.take? token next? = none := by
    simpa using skipped row member
  simp [passed row rowPassed]

theorem select?_eq_none_transfer
    (unmatched : grammar.select? token next? = none)
    (passed : ∀ row : Rule, row.take? token next? = none →
      row.take? token other? = none) :
    grammar.select? token other? = none := by
  unfold select? at unmatched ⊢
  rw [List.findSome?_eq_none_iff] at unmatched ⊢
  intro row member
  have rowPassed : row.take? token next? = none := by
    simpa using unmatched row member
  simp [passed row rowPassed]

/-- The flag at a word is the word alone, whatever follows it. -/
def StandsAlone (grammar : Grammar) (token : String)
    (category : Category) : Prop :=
  ∀ next? : Option String, grammar.read token next? = ⟨category, [token]⟩

/-- The flag at a word takes the word behind it, whichever that is.  Nothing
is said about the word at the end of a call. -/
def TakesNext (grammar : Grammar) (token : String)
    (category : Category) : Prop :=
  ∀ next : String, grammar.read token (some next) = ⟨category, [token, next]⟩

theorem standsAlone_of_select?
    {rule : Rule} {next : String}
    (selected : grammar.select? token (some next) = some (rule, [token])) :
    grammar.StandsAlone token rule.category := by
  intro other?
  have taken := (select?_eq_some selected).2
  have transferred : grammar.select? token other? = some (rule, [token]) :=
    select?_transfer selected
      (fun _ passed => Rule.take?_eq_none_of_followed passed other?)
      (Rule.take?_of_singleton taken other?)
  exact read_of_select? transferred

theorem takesNext_of_select?
    {rule : Rule} {next : String}
    (selected : grammar.select? token (some next) =
      some (rule, [token, next])) :
    grammar.TakesNext token rule.category := by
  intro other
  have taken := (select?_eq_some selected).2
  obtain ⟨valued, whole, loose, _⟩ := Rule.take?_eq_pair_iff.mp taken
  have transferred :
      grammar.select? token (some other) = some (rule, [token, other]) :=
    select?_transfer selected
      (fun _ passed => Rule.take?_eq_none_of_followed passed (some other))
      (Rule.take?_eq_pair_iff.mpr ⟨valued, whole, loose, rfl⟩)
  exact read_of_select? transferred

theorem standsAlone_of_select?_eq_none {next : String}
    (unmatched : grammar.select? token (some next) = none) :
    grammar.StandsAlone token .source := by
  intro other?
  exact read_of_select?_eq_none (select?_eq_none_transfer unmatched
    fun _ passed => Rule.take?_eq_none_of_followed passed other?)

/-- Every word stands alone in front of all others, or takes each of them. -/
theorem standsAlone_or_takesNext (grammar : Grammar) (token : String) :
    ∃ category, grammar.StandsAlone token category ∨
      grammar.TakesNext token category := by
  cases selected : grammar.select? token (some token) with
  | none => exact ⟨.source, Or.inl (standsAlone_of_select?_eq_none selected)⟩
  | some selection =>
      obtain ⟨rule, tokens⟩ := selection
      refine ⟨rule.category, ?_⟩
      rcases Rule.take?_eq_some (select?_eq_some selected).2 with
        single | ⟨next, present, pair⟩
      · obtain rfl : tokens = [token] := single
        exact Or.inl (standsAlone_of_select? selected)
      · obtain rfl : token = next := Option.some.inj present
        obtain rfl : tokens = [token, token] := pair
        exact Or.inr (takesNext_of_select? selected)

theorem exists_read_none (grammar : Grammar) (token : String) :
    ∃ category, grammar.read token none = ⟨category, [token]⟩ := by
  refine ⟨(grammar.read token none).category, ?_⟩
  rcases grammar.tokens_read token none with alone | ⟨next, present, _⟩
  · rw [← alone]
  · contradiction

theorem not_standsAlone_of_takesNext {alone paired : Category}
    (takesNext : grammar.TakesNext token paired) :
    ¬grammar.StandsAlone token alone := by
  intro standsAlone
  have equality := (standsAlone (some token)).symm.trans (takesNext token)
  simp at equality

end Grammar

end CompilerCalls
