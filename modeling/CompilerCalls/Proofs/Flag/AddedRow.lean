import CompilerCalls.Proofs.Flag.TableOrder

/-!
# A row added to a table

A table without one of its rows is accepted if the whole table is.  The row
makes no difference to words which it does not describe: such a word has the
same candidates in the same order, whatever the place of the row in the table
and whichever candidates are passed over.
-/

namespace CompilerCalls

variable {before behind : List Rule} {rule : Rule}

theorem WellFormed.sublist {rows rules : List Rule}
    (wellFormed : WellFormed rules) (sublist : rows.Sublist rules) :
    WellFormed rows :=
  ⟨fun row member => wellFormed.readable row (sublist.subset member),
    wellFormed.compatible.sublist sublist⟩

namespace Grammar

variable {grammar extended : Grammar} {tokens : List String} {token : String}

/-- A row which does not describe a word is no candidate for it. -/
theorem candidates_of_not_applies
    (rows : grammar.rules = before ++ behind)
    (more : extended.rules = before ++ rule :: behind)
    (apart : ¬rule.Applies token) :
    extended.candidates token = grammar.candidates token := by
  obtain ⟨notSpelled, notLeading⟩ := not_or.mp apart
  have spelled : extended.rules.filter (·.spells token) =
      grammar.rules.filter (·.spells token) := by
    simp [rows, more, notSpelled]
  have leading : extended.rules.filter (·.leads token) =
      grammar.rules.filter (·.leads token) := by
    simp [rows, more, notLeading]
  rw [candidates, candidates, spelled, leading]

theorem parse_of_not_applies (rows : grammar.rules = before ++ behind)
    (more : extended.rules = before ++ rule :: behind)
    (apart : ∀ token ∈ tokens, ¬rule.Applies token) :
    extended.parse tokens = grammar.parse tokens :=
  parse_congr fun token member next? =>
    read_congr (candidates_of_not_applies rows more (apart token member)) next?

/-- A row can be put anywhere into a table.  If the longer table is accepted,
so is the table without the row, and both read every call alike in which no
word begins with the spelling of the row.  If the row is for the whole word,
both read every call alike in which no word is its spelling. -/
theorem ofRules_added_row
    (accepted : ofRules (before ++ rule :: behind) = .ok extended) :
    ∃ grammar, ofRules (before ++ behind) = .ok grammar ∧
      grammar.rules = before ++ behind ∧
      (∀ tokens : List String,
        (∀ token ∈ tokens, ¬rule.key.toList <+: token.toList) →
        extended.parse tokens = grammar.parse tokens) ∧
      (rule.mode = .exact → ∀ tokens : List String, rule.key ∉ tokens →
        extended.parse tokens = grammar.parse tokens) := by
  have more := rules_of_ofRules accepted
  have wellFormed : WellFormed (before ++ behind) := by
    have longer := extended.wellFormed
    rw [more] at longer
    exact longer.sublist
      ((List.sublist_cons_self rule behind).append_left before)
  let grammar : Grammar :=
    ⟨before ++ behind, firstFault?_nil_eq_none_iff.mpr wellFormed⟩
  have rows : grammar.rules = before ++ behind := rfl
  refine ⟨grammar, grammar.ofRules_rules, rows, ?_, ?_⟩
  · intro tokens noBeginning
    apply parse_of_not_applies rows more
    intro token member applies
    exact noBeginning token member applies.isPrefix
  · intro exactly tokens absent
    apply parse_of_not_applies rows more
    intro token member applies
    exact absent (applies.key_eq_of_exact exactly ▸ member)

/-- A row between a shorter spelling and a longer one leaves the words alone
which fall to its neighbours. -/
theorem ofRules_added_row_between :
    ∃ extended grammar,
      ofRules ([⟨"-f", 0, .leading, .other, false⟩] ++
        ⟨"-fuse", 1, .exact, .linker, false⟩ ::
          [⟨"-fuse-ld", 0, .leading, .linker, true⟩]) = .ok extended ∧
      ofRules ([⟨"-f", 0, .leading, .other, false⟩] ++
        [⟨"-fuse-ld", 0, .leading, .linker, true⟩]) = .ok grammar ∧
      extended.parse ["-fus", "a.c"] = grammar.parse ["-fus", "a.c"] ∧
      extended.parse ["-fuse-ld=x", "-fused", "a.c"] =
        grammar.parse ["-fuse-ld=x", "-fused", "a.c"] := by
  let rows : List Rule := [⟨"-f", 0, .leading, .other, false⟩] ++
    ⟨"-fuse", 1, .exact, .linker, false⟩ ::
      [⟨"-fuse-ld", 0, .leading, .linker, true⟩]
  let extended : Grammar := ⟨rows, by decide +kernel⟩
  obtain ⟨grammar, accepted, _, aside, exactly⟩ :=
    ofRules_added_row extended.ofRules_rules
  exact ⟨extended, grammar, extended.ofRules_rules, accepted,
    aside _ (by decide), exactly rfl _ (by decide)⟩

end Grammar

end CompilerCalls
