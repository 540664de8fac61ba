import CompilerCalls.Proofs.Flag.Priority

/-!
# The order of a table

The rows of an accepted table can stand in any order.  The check compares the
rows in pairs, so it passes for each order.  The candidates for a word keep the
order of the table only among rows of one rank, and there is at most one row
of each rank: rows spelled like the word are equal, and so are rows which begin
it with spellings of one length.
-/

namespace CompilerCalls

theorem firstFault?_nil_eq_none_iff {rules : List Rule} :
    firstFault? [] rules = none ↔ WellFormed rules := by
  simp [firstFault?_eq_none_iff]

theorem WellFormed.of_perm {rules others : List Rule}
    (wellFormed : WellFormed rules) (permuted : others.Perm rules) :
    WellFormed others := by
  constructor
  · intro rule member
    exact wellFormed.readable rule (permuted.mem_iff.mp member)
  · exact (permuted.pairwise_iff fun compatible =>
      Std.Symm.symm _ _ compatible).mpr wellFormed.compatible

namespace Grammar

variable {grammar other : Grammar} {token : String}

/-- The rows of a grammar are accepted again. -/
theorem ofRules_rules (grammar : Grammar) :
    ofRules grammar.rules = .ok grammar := by
  unfold ofRules
  split
  · rfl
  · rename_i fault found
    rw [grammar.accepted] at found
    contradiction

theorem rules_of_ofRules {rules : List Rule}
    (accepted : ofRules rules = .ok grammar) : grammar.rules = rules := by
  unfold ofRules at accepted
  split at accepted
  · cases accepted
    rfl
  · contradiction

theorem spelled_eq_of_perm (permuted : other.rules.Perm grammar.rules)
    (token : String) :
    other.rules.filter (·.spells token) =
      grammar.rules.filter (·.spells token) := by
  have equal : ∀ left ∈ other.rules.filter (·.spells token),
      ∀ right ∈ grammar.rules.filter (·.spells token), left = right := by
    intro left leftMember right rightMember
    obtain ⟨leftListed, leftSpelled⟩ := List.mem_filter.mp leftMember
    obtain ⟨rightListed, rightSpelled⟩ := List.mem_filter.mp rightMember
    exact eq_of_spells (permuted.mem_iff.mp leftListed) rightListed
      leftSpelled rightSpelled
  have unordered : ∀ rows : List Rule, rows.Pairwise fun _ _ => True :=
    fun _ => List.pairwise_of_forall fun _ _ => trivial
  apply List.Perm.eq_of_pairwise _ (unordered _) (unordered _)
    (permuted.filter _)
  intro left right leftMember rightMember _ _
  exact equal left leftMember right rightMember

theorem leading_eq_of_perm (permuted : other.rules.Perm grammar.rules)
    (token : String) :
    longestFirst (other.rules.filter (·.leads token)) =
      longestFirst (grammar.rules.filter (·.leads token)) := by
  apply List.Perm.eq_of_pairwise _ (ranked_longestFirst _)
    (ranked_longestFirst _)
  · exact (longestFirst_perm _).trans
      ((permuted.filter _).trans (longestFirst_perm _).symm)
  · intro left right leftMember rightMember notShorter notLonger
    rw [mem_longestFirst] at leftMember rightMember
    obtain ⟨leftListed, leftLeads⟩ := List.mem_filter.mp leftMember
    obtain ⟨rightListed, rightLeads⟩ := List.mem_filter.mp rightMember
    exact eq_of_leads (permuted.mem_iff.mp leftListed) rightListed leftLeads
      rightLeads (Nat.le_antisymm notLonger notShorter)

theorem candidates_eq_of_perm (permuted : other.rules.Perm grammar.rules)
    (token : String) : other.candidates token = grammar.candidates token := by
  rw [candidates, candidates, spelled_eq_of_perm permuted,
    leading_eq_of_perm permuted]

/-- A call is read in the same way when each of its words is. -/
theorem parse_congr {tokens : List String}
    (same : ∀ token ∈ tokens, ∀ next?,
      other.read token next? = grammar.read token next?) :
    other.parse tokens = grammar.parse tokens := by
  induction tokens using Grammar.parse.induct grammar with
  | case1 => rfl
  | case2 token => simp [parse, same]
  | case3 token next rest behindWord behindPair =>
      have head : other.read token (some next) =
          grammar.read token (some next) :=
        same token List.mem_cons_self _
      have afterWord := behindWord fun word member =>
        same word (List.mem_cons_of_mem _ member)
      have afterPair := behindPair fun word member =>
        same word (List.mem_cons_of_mem _ (List.mem_cons_of_mem _ member))
      simp only [parse, head, afterWord, afterPair]

theorem read_congr (same : other.candidates token = grammar.candidates token)
    (next? : Option String) :
    other.read token next? = grammar.read token next? := by
  have selected : other.select? token next? = grammar.select? token next? := by
    rw [select?, select?, same]
  cases found : grammar.select? token next? with
  | none =>
      rw [read_of_select?_eq_none found,
        read_of_select?_eq_none (selected.trans found)]
  | some selection =>
      rw [read_of_select? found, read_of_select? (selected.trans found)]

/-- A table may be written in any order: it is accepted again, each word has
the same candidates in the same order, and each call falls into the same
flags. -/
theorem ofRules_perm (grammar : Grammar) {rules : List Rule}
    (permuted : rules.Perm grammar.rules) :
    ∃ reordered, ofRules rules = .ok reordered ∧ reordered.rules = rules ∧
      (∀ token, reordered.candidates token = grammar.candidates token) ∧
      ∀ tokens, reordered.parse tokens = grammar.parse tokens := by
  have accepted : firstFault? [] rules = none :=
    firstFault?_nil_eq_none_iff.mpr (grammar.wellFormed.of_perm permuted)
  let reordered : Grammar := ⟨rules, accepted⟩
  have same : ∀ token,
      reordered.candidates token = grammar.candidates token :=
    candidates_eq_of_perm permuted
  refine ⟨reordered, reordered.ofRules_rules, rfl, same, ?_⟩
  intro tokens
  exact parse_congr fun token _ next? => read_congr (same token) next?

theorem ofRules_perm_reverse :
    Gnu.rules.reverse.Perm gnu.rules ∧
      ∃ reordered, ofRules Gnu.rules.reverse = .ok reordered ∧
        reordered.candidates "-isystem" =
          [⟨"-isystem", 1, .both, .directorySearch, false⟩,
            ⟨"-isystem", 1, .both, .directorySearch, false⟩] ∧
        reordered.parse ["-isystem", "-c", "-dumpbase"] =
          [⟨.directorySearch, ["-isystem", "-c"]⟩,
            ⟨.other, ["-dumpbase"]⟩] := by
  have permuted : Gnu.rules.reverse.Perm gnu.rules := List.reverse_perm _
  obtain ⟨reordered, accepted, _, candidates, parsed⟩ :=
    gnu.ofRules_perm permuted
  refine ⟨permuted, reordered, accepted, ?_, ?_⟩
  · rw [candidates]
    decide +kernel
  · rw [parsed]
    decide +kernel

end Grammar

end CompilerCalls
