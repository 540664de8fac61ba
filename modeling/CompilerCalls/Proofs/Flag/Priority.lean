import CompilerCalls.Proofs.Flag.Cursor
import CompilerCalls.Proofs.Flag.Gnu

/-!
# Which row reads a word

A row can read a word which it describes when it finds the value it needs.
Among these rows the one which is spelled like the word comes first, and then
the one with the longest spelling.  `Chosen` says this without an order of
trial; an accepted table leaves no two rows to choose from, and the row which
is found by trying the candidates one after the other is the chosen one.

A word which no row can read is a source.
-/

namespace CompilerCalls

namespace Rule

variable {rule : Rule} {token : String} {next? : Option String}
  {words : List String}

/-- The row describes a word by one of its comparisons. -/
def Applies (rule : Rule) (token : String) : Prop :=
  rule.spells token = true ∨ rule.leads token = true

instance (rule : Rule) (token : String) : Decidable (rule.Applies token) :=
  inferInstanceAs (Decidable (_ ∨ _))

/-- The row needs no value, or finds it in the word or behind it. -/
def Feasible (rule : Rule) (token : String) (next? : Option String) : Prop :=
  rule.arity = 0 ∨ rule.key.length < token.length ∨
    rule.sticky = false ∧ next?.isSome = true

instance (rule : Rule) (token : String) (next? : Option String) :
    Decidable (rule.Feasible token next?) :=
  inferInstanceAs (Decidable (_ ∨ _ ∨ _))

/-- The words of a flag which a row reads.  The next word belongs to it when
the flag has a value and the word is the spelling alone. -/
def Takes (rule : Rule) (token : String) (next? : Option String)
    (words : List String) : Prop :=
  if rule.arity = 1 ∧ rule.key = token then
    ∃ next, next? = some next ∧ words = [token, next]
  else words = [token]

theorem Applies.isPrefix (applies : rule.Applies token) :
    rule.key.toList <+: token.toList := by
  rcases applies with spelled | leads
  · obtain ⟨_, rfl⟩ := spells_iff.mp spelled
    exact List.prefix_rfl
  · exact (leads_iff.mp leads).2

/-- A row for the whole word describes its spelling alone. -/
theorem Applies.key_eq_of_exact (applies : rule.Applies token)
    (exactly : rule.mode = .exact) : rule.key = token := by
  rcases applies with spelled | leads
  · exact (spells_iff.mp spelled).2
  · have leading := (leads_iff.mp leads).1
    rw [exactly] at leading
    contradiction

theorem Applies.length_lt_iff (applies : rule.Applies token) :
    rule.key.length < token.length ↔ rule.key ≠ token := by
  have beginning := applies.isPrefix
  have notLonger := beginning.length_le
  simp only [String.length_toList] at notLonger
  constructor
  · rintro longer rfl
    exact Nat.lt_irrefl _ longer
  · intro different
    refine Nat.lt_of_le_of_ne notLonger fun sameLength => different ?_
    exact String.toList_inj.mp (beginning.eq_of_length sameLength)

theorem isSome_take?_iff :
    (rule.take? token next?).isSome = true ↔ rule.Feasible token next? := by
  unfold take? Feasible
  by_cases plain : rule.arity = 0
  · simp [plain]
  · by_cases glued : rule.key.length < token.length
    · simp [plain, glued]
    · cases sticky : rule.sticky <;> simp [plain, glued]

theorem take?_eq_none_iff :
    rule.take? token next? = none ↔ ¬rule.Feasible token next? := by
  rw [← isSome_take?_iff, Option.not_isSome_iff_eq_none]

/-- A row which describes a word and cannot read it lacks its value. -/
theorem Applies.not_feasible_iff (applies : rule.Applies token)
    (readable : rule.Readable) :
    ¬rule.Feasible token next? ↔
      rule.arity = 1 ∧ rule.key = token ∧
        (rule.sticky = true ∨ next? = none) := by
  have valued : ¬rule.arity = 0 ↔ rule.arity = 1 := by
    rcases readable.arity_eq with none | one <;> omega
  unfold Feasible
  rw [applies.length_lt_iff, not_or, not_or, valued, not_not, not_and_or]
  simp

theorem Applies.takes_of_take? (applies : rule.Applies token)
    (readable : rule.Readable)
    (taken : rule.take? token next? = some words) :
    rule.Takes token next? words := by
  unfold take? at taken
  unfold Takes
  split
  · rename_i valued
    obtain ⟨one, whole⟩ := valued
    have separate : ¬rule.key.length < token.length := by
      rw [applies.length_lt_iff, not_not]
      exact whole
    rw [if_neg (by omega), if_neg separate] at taken
    split at taken
    · contradiction
    · obtain ⟨next, present, rfl⟩ := Option.map_eq_some_iff.mp taken
      exact ⟨next, present, rfl⟩
  · rename_i single
    have alone : rule.arity = 0 ∨ rule.key.length < token.length := by
      rw [applies.length_lt_iff]
      rcases readable.arity_eq with none | one
      · exact Or.inl none
      · exact Or.inr fun whole => single ⟨one, whole⟩
    rcases alone with plain | glued
    · simpa [plain, eq_comm] using taken
    · simpa [glued, eq_comm] using taken

end Rule

namespace Grammar

variable {grammar : Grammar} {rule : Rule} {token : String}
  {next? : Option String} {words : List String}

/-- The row which is to read a word: the one which is spelled like the word if
it can, and else the longest of those which begin the word and can. -/
inductive Chosen (grammar : Grammar) (token : String)
    (next? : Option String) : Rule → Prop where
  | spelled {rule : Rule} :
      rule ∈ grammar.rules → rule.spells token = true →
      rule.Feasible token next? →
      Chosen grammar token next? rule
  | longest {rule : Rule} :
      rule ∈ grammar.rules → rule.leads token = true →
      rule.Feasible token next? →
      (∀ other ∈ grammar.rules, other.spells token = true →
        ¬other.Feasible token next?) →
      (∀ other ∈ grammar.rules, other.leads token = true →
        other.Feasible token next? → other.key.length ≤ rule.key.length) →
      Chosen grammar token next? rule

theorem Chosen.mem (chosen : grammar.Chosen token next? rule) :
    rule ∈ grammar.rules := by
  cases chosen with
  | spelled member _ _ => exact member
  | longest member _ _ _ _ => exact member

theorem Chosen.applies (chosen : grammar.Chosen token next? rule) :
    rule.Applies token := by
  cases chosen with
  | spelled _ spelled _ => exact Or.inl spelled
  | longest _ leads _ _ _ => exact Or.inr leads

theorem Chosen.feasible (chosen : grammar.Chosen token next? rule) :
    rule.Feasible token next? := by
  cases chosen with
  | spelled _ _ feasible => exact feasible
  | longest _ _ feasible _ _ => exact feasible

/-- A word which goes on behind a spelling is read by the row of this spelling
if no longer one begins the word. -/
theorem Chosen.of_leads (member : rule ∈ grammar.rules)
    (leads : rule.leads token = true)
    (longer : rule.key.length < token.length)
    (longest : ∀ other ∈ grammar.rules,
      other.key.toList <+: token.toList →
      other.key.length ≤ rule.key.length) :
    grammar.Chosen token next? rule := by
  refine .longest member leads (Or.inr (Or.inl longer)) ?_ ?_
  · intro other otherMember spelled _
    have notLonger := longest other otherMember
      (Rule.Applies.isPrefix (Or.inl spelled))
    rw [(Rule.spells_iff.mp spelled).2] at notLonger
    omega
  · intro other otherMember otherLeads _
    exact longest other otherMember (Rule.leads_iff.mp otherLeads).2

theorem Chosen.unique {other : Rule}
    (chosen : grammar.Chosen token next? rule)
    (otherChosen : grammar.Chosen token next? other) : rule = other := by
  cases chosen with
  | spelled member spelled feasible =>
      cases otherChosen with
      | spelled otherMember otherSpelled _ =>
          exact eq_of_spells member otherMember spelled otherSpelled
      | longest _ _ _ noneSpelled _ =>
          exact (noneSpelled rule member spelled feasible).elim
  | longest member leads feasible noneSpelled longest =>
      cases otherChosen with
      | spelled otherMember otherSpelled otherFeasible =>
          exact (noneSpelled other otherMember otherSpelled
            otherFeasible).elim
      | longest otherMember otherLeads otherFeasible _ otherLongest =>
          have sameLength : rule.key.length = other.key.length :=
            Nat.le_antisymm (otherLongest rule member leads feasible)
              (longest other otherMember otherLeads otherFeasible)
          exact eq_of_leads member otherMember leads otherLeads sameLength

end Grammar

namespace Rule

variable {rule : Rule} {rows before behind : List Rule} {token : String}
  {next? : Option String} {words : List String}

/-- The first of some rows which finds its value, with the words it takes. -/
def firstFeasible? (token : String) (next? : Option String)
    (rows : List Rule) : Option (Rule × List String) :=
  rows.findSome? fun rule =>
    (rule.take? token next?).map fun tokens => (rule, tokens)

theorem firstFeasible?_eq_none_iff :
    firstFeasible? token next? rows = none ↔
      ∀ row ∈ rows, ¬row.Feasible token next? := by
  simp [firstFeasible?, List.findSome?_eq_none_iff, take?_eq_none_iff]

theorem firstFeasible?_eq_some
    (found : firstFeasible? token next? rows = some (rule, words)) :
    ∃ before behind, rows = before ++ rule :: behind ∧
      rule.Feasible token next? ∧
        ∀ row ∈ before, ¬row.Feasible token next? := by
  obtain ⟨before, selected, behind, listed, found, passed⟩ :=
    List.findSome?_eq_some_iff.mp found
  obtain ⟨words, taken, equality⟩ := Option.map_eq_some_iff.mp found
  obtain ⟨rfl, rfl⟩ := Prod.mk.inj equality
  have feasible : selected.Feasible token next? := by
    rw [← isSome_take?_iff, taken, Option.isSome_some]
  refine ⟨before, behind, listed, feasible, ?_⟩
  intro row member
  have skipped : row.take? token next? = none := by
    simpa using passed row member
  exact take?_eq_none_iff.mp skipped

/-- Behind infeasible rows, the first row of a ranked list is the longest
feasible one. -/
theorem length_le_of_ranked
    (ranked : Ranked (before ++ rule :: behind))
    (passed : ∀ row ∈ before, ¬row.Feasible token next?)
    {other : Rule} (member : other ∈ before ++ rule :: behind)
    (feasible : other.Feasible token next?) :
    other.key.length ≤ rule.key.length := by
  obtain ⟨_, fromRule, _⟩ := List.pairwise_append.mp ranked
  rcases List.mem_append.mp member with earlier | later
  · exact (passed other earlier feasible).elim
  · rcases List.mem_cons.mp later with rfl | later
    · exact Nat.le_refl _
    · exact (List.pairwise_cons.mp fromRule).1 other later

end Rule

namespace Grammar

variable {grammar : Grammar} {rule : Rule} {token : String}
  {next? : Option String} {words : List String}

theorem select?_eq_firstFeasible? (grammar : Grammar) (token : String)
    (next? : Option String) :
    grammar.select? token next? =
      Rule.firstFeasible? token next? (grammar.candidates token) := rfl

theorem select?_eq_none_iff :
    grammar.select? token next? = none ↔
      ∀ rule ∈ grammar.rules, rule.Applies token →
        ¬rule.Feasible token next? := by
  simp [select?_eq_firstFeasible?, Rule.firstFeasible?_eq_none_iff,
    mem_candidates, Rule.Applies]

/-- Trying the candidates in their order finds the chosen row. -/
theorem chosen_of_select?
    (selected : grammar.select? token next? = some (rule, words)) :
    grammar.Chosen token next? rule := by
  rw [select?_eq_firstFeasible?, candidates, Rule.firstFeasible?,
    List.findSome?_append, Option.or_eq_some_iff] at selected
  -- Rows which are spelled like the word stand in front of all others, so the
  -- search goes on only when none of them is feasible.
  rcases selected with first | ⟨noneSpelled, second⟩
  · obtain ⟨_, _, listed, feasible, _⟩ := Rule.firstFeasible?_eq_some first
    have member : rule ∈ grammar.rules.filter (·.spells token) := by
      simp [listed]
    obtain ⟨inTable, spelled⟩ := List.mem_filter.mp member
    exact .spelled inTable spelled feasible
  · obtain ⟨before, behind, listed, feasible, passed⟩ :=
      Rule.firstFeasible?_eq_some second
    have ranked := ranked_longestFirst (grammar.rules.filter (·.leads token))
    have member : rule ∈ grammar.rules.filter (·.leads token) :=
      mem_longestFirst.mp (by simp [listed])
    obtain ⟨inTable, leads⟩ := List.mem_filter.mp member
    refine .longest inTable leads feasible ?_ ?_
    · intro other otherInTable spelled
      exact Rule.firstFeasible?_eq_none_iff.mp noneSpelled other
        (List.mem_filter.mpr ⟨otherInTable, spelled⟩)
    · intro other otherInTable otherLeads otherFeasible
      have place : other ∈ before ++ rule :: behind := by
        rw [← listed, mem_longestFirst]
        exact List.mem_filter.mpr ⟨otherInTable, otherLeads⟩
      exact Rule.length_le_of_ranked (listed ▸ ranked) passed place
        otherFeasible

theorem select?_of_chosen (chosen : grammar.Chosen token next? rule) :
    ∃ words, rule.Takes token next? words ∧
      grammar.select? token next? = some (rule, words) := by
  cases selected : grammar.select? token next? with
  | none =>
      exact (select?_eq_none_iff.mp selected rule chosen.mem chosen.applies
        chosen.feasible).elim
  | some selection =>
      obtain ⟨row, words⟩ := selection
      obtain rfl := (chosen_of_select? selected).unique chosen
      have taken := (select?_eq_some selected).2
      have readable := grammar.wellFormed.readable row chosen.mem
      exact ⟨words, chosen.applies.takes_of_take? readable taken, rfl⟩

/-- In a table without rows for sources, a word is a source when each row
which describes it lacks its value. -/
theorem category_read_eq_source_iff
    (noSources : ∀ rule ∈ grammar.rules, rule.category ≠ .source) :
    (grammar.read token next?).category = .source ↔
      ∀ rule ∈ grammar.rules, rule.Applies token →
        rule.arity = 1 ∧ rule.key = token ∧
          (rule.sticky = true ∨ next? = none) := by
  have lacking : (∀ rule ∈ grammar.rules, rule.Applies token →
      rule.arity = 1 ∧ rule.key = token ∧
        (rule.sticky = true ∨ next? = none)) ↔
      grammar.select? token next? = none := by
    rw [select?_eq_none_iff]
    refine forall₃_congr fun rule member applies => ?_
    exact (applies.not_feasible_iff
      (grammar.wellFormed.readable rule member)).symm
  rw [lacking]
  cases selected : grammar.select? token next? with
  | none => simp [read_of_select?_eq_none selected]
  | some selection =>
      have chosen : grammar.Chosen token next? selection.1 :=
        chosen_of_select? selected
      simpa [read_of_select? selected] using noSources _ chosen.mem

/-- A flag is read at a position when a row can read the word there, and then
by the one chosen row, which says the category and how many words belong to the
flag.  So the flag that starts there is a source just when every row which
describes its word lacks the value. -/
theorem readAt_flag_priority (grammar : Grammar) (tokens : List String)
    (position : Nat) (within : position < tokens.length) :
    (Matcher.flag.readAt grammar tokens position = .ok none ↔
      ∀ rule ∈ grammar.rules, rule.Applies tokens[position] →
        ¬rule.Feasible tokens[position] tokens[position + 1]?) ∧
    ((∃ rule ∈ grammar.rules, rule.Applies tokens[position] ∧
        rule.Feasible tokens[position] tokens[position + 1]?) →
      ∃! rule, grammar.Chosen tokens[position] tokens[position + 1]? rule) ∧
    (∀ rule, grammar.Chosen tokens[position] tokens[position + 1]? rule →
      ∃ words, rule.Takes tokens[position] tokens[position + 1]? words ∧
        Matcher.flag.readAt grammar tokens position =
          .ok (some ⟨rule.category, words⟩)) ∧
    ((∀ rule ∈ grammar.rules, rule.category ≠ .source) →
      ∀ (before : List Flag) (flag : Flag) (behind : List Flag),
        grammar.parse tokens = before ++ flag :: behind →
        (Flags.words before).length = position →
        (flag.category = .source ↔
          ∀ rule ∈ grammar.rules, rule.Applies tokens[position] →
            rule.arity = 1 ∧ rule.key = tokens[position] ∧
              (rule.sticky = true ∨ position + 1 = tokens.length))) := by
  rw [Matcher.readAt_of_lt _ within]
  refine ⟨?_, ?_, ?_, ?_⟩
  · rw [← select?_eq_none_iff]
    simp [Matcher.read?]
  · rintro ⟨row, member, applies, feasible⟩
    cases selected :
        grammar.select? tokens[position] tokens[position + 1]? with
    | none =>
        exact (select?_eq_none_iff.mp selected row member applies
          feasible).elim
    | some selection =>
        have chosen : grammar.Chosen tokens[position] tokens[position + 1]?
            selection.1 := chosen_of_select? selected
        exact ⟨selection.1, chosen, fun _ other => other.unique chosen⟩
  · intro rule chosen
    obtain ⟨words, takes, selected⟩ := select?_of_chosen chosen
    exact ⟨words, takes, by simp [Matcher.read?, selected]⟩
  · rintro noSources before flag behind parsed rfl
    obtain ⟨_, readsAt⟩ := (scan_iff.mpr parsed).readsAt_behind
    rw [Nat.zero_add, readsAt_iff within] at readsAt
    have last :
        tokens[(Flags.words before).length + 1]? = none ↔
          (Flags.words before).length + 1 = tokens.length := by
      rw [List.getElem?_eq_none_iff]
      omega
    rw [← readsAt, category_read_eq_source_iff noSources, last]

/-- Two spellings at the end of a call: one falls back to the shorter spelling
of another row, and one is left to be a source. -/
theorem readAt_flag_priority_at_end :
    gnu.Chosen "-dumpbase" none ⟨"-d", 0, .leading, .other, false⟩ ∧
      (∃! rule, gnu.Chosen "-dumpbase" none rule) ∧
      Matcher.flag.readAt gnu ["a.c", "-dumpbase"] 1 =
        .ok (some ⟨.other, ["-dumpbase"]⟩) ∧
      gnu.parse ["a.c", "-include"] =
        [⟨.source, ["a.c"]⟩] ++ ⟨.source, ["-include"]⟩ :: [] ∧
      Matcher.flag.readAt gnu ["a.c", "-include"] 1 = .ok none ∧
      ∀ rule ∈ gnu.rules, rule.Applies "-include" →
        rule.arity = 1 ∧ rule.key = "-include" ∧
          (rule.sticky = true ∨ 1 + 1 = ["a.c", "-include"].length) := by
  have member : (⟨"-d", 0, .leading, .other, false⟩ : Rule) ∈ gnu.rules := by
    decide +kernel
  have leads : Rule.leads ⟨"-d", 0, .leading, .other, false⟩ "-dumpbase" =
      true := by
    decide
  have feasible : Rule.Feasible ⟨"-d", 0, .leading, .other, false⟩
      "-dumpbase" none := Or.inl rfl
  have chosen : gnu.Chosen "-dumpbase" none
      ⟨"-d", 0, .leading, .other, false⟩ :=
    .longest member leads feasible (by decide +kernel) (by decide +kernel)
  obtain ⟨_, unique, read, _⟩ :=
    gnu.readAt_flag_priority ["a.c", "-dumpbase"] 1 (by decide)
  obtain ⟨unmatched, _, _, source⟩ :=
    gnu.readAt_flag_priority ["a.c", "-include"] 1 (by decide)
  have parsed : gnu.parse ["a.c", "-include"] =
      [⟨.source, ["a.c"]⟩] ++ ⟨.source, ["-include"]⟩ :: [] := by
    decide +kernel
  obtain ⟨words, takes, answered⟩ := read _ chosen
  obtain rfl : words = ["-dumpbase"] := takes
  exact ⟨chosen, unique ⟨_, member, Or.inr leads, feasible⟩, answered, parsed,
    unmatched.mpr (by decide +kernel),
    (source Gnu.category_ne_source _ _ _ parsed rfl).mp rfl⟩

end Grammar

end CompilerCalls
