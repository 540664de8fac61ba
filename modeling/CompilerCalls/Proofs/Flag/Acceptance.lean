import CompilerCalls.Proofs.Flag.Follower
import CompilerCalls.Proofs.Flag.Ranking
import Mathlib.Data.List.Pairwise

/-!
# What acceptance of a table says about its rows

The check of a table looks at the rows one after the other.  It passes exactly
when every row is readable in its own right and no two rows clash.  Hence at
most one row is spelled like a given word, at most one row of each length
begins it, and a word which is the spelling of a row is read by that row.
-/

namespace CompilerCalls

namespace Rule

/-- A row can describe some word, apart from what the other rows are. -/
structure Readable (rule : Rule) : Prop where
  key_ne_empty : rule.key ≠ ""
  arity_eq : rule.arity = 0 ∨ rule.arity = 1
  reachable : ¬(rule.mode = .exact ∧ rule.arity = 1 ∧ rule.sticky = true)

/-- Two rows never describe the same word by the same comparison with the
same spelling. -/
structure Compatible (left right : Rule) : Prop where
  exactly : left.clashesExactly right = false
  leading : left.clashesLeading right = false

theorem clashesExactly_comm (left right : Rule) :
    left.clashesExactly right = right.clashesExactly left := by
  simp [clashesExactly, Bool.and_comm, BEq.comm]

theorem clashesLeading_comm (left right : Rule) :
    left.clashesLeading right = right.clashesLeading left := by
  simp [clashesLeading, Bool.and_comm, BEq.comm]

instance : Std.Symm Compatible where
  symm left right compatible :=
    ⟨(clashesExactly_comm right left).trans compatible.exactly,
      (clashesLeading_comm right left).trans compatible.leading⟩

/-- A row which is readable in its own right can only clash with rows before
it. -/
theorem fault?_of_readable {rule : Rule} (readable : rule.Readable)
    (earlier : List Rule) :
    rule.fault? earlier =
      if earlier.any (·.clashesExactly rule) then some (.twoExact rule.key)
      else if earlier.any (·.clashesLeading rule) then
        some (.twoLeading rule.key)
      else none := by
  have counted : ¬(rule.arity ≠ 0 ∧ rule.arity ≠ 1) := by
    rcases readable.arity_eq with none | one <;> omega
  rw [fault?, if_neg readable.key_ne_empty, if_neg counted,
    if_neg readable.reachable]

theorem fault?_eq_none_iff {earlier : List Rule} {rule : Rule} :
    rule.fault? earlier = none ↔
      rule.Readable ∧ ∀ other ∈ earlier, other.Compatible rule := by
  constructor
  · intro passed
    unfold fault? at passed
    split at passed
    · contradiction
    split at passed
    · contradiction
    split at passed
    · contradiction
    split at passed
    · contradiction
    split at passed
    · contradiction
    rename_i named counted reachable exactly leading
    rw [List.any_eq_true] at exactly leading
    refine ⟨⟨named, by omega, reachable⟩, ?_⟩
    intro other member
    exact ⟨by simpa using fun clash => exactly ⟨other, member, clash⟩,
      by simpa using fun clash => leading ⟨other, member, clash⟩⟩
  · rintro ⟨readable, compatible⟩
    have exactly : earlier.any (·.clashesExactly rule) = false := by
      simpa using fun other member => (compatible other member).exactly
    have leading : earlier.any (·.clashesLeading rule) = false := by
      simpa using fun other member => (compatible other member).leading
    simp [fault?_of_readable readable, exactly, leading]

end Rule

/-- Every row is readable, and no two rows clash. -/
structure WellFormed (rules : List Rule) : Prop where
  readable : ∀ rule ∈ rules, rule.Readable
  compatible : rules.Pairwise Rule.Compatible

/-- The scan keeps the rows it has passed; each later row is checked against
all of them. -/
theorem firstFault?_eq_none_iff {earlier rules : List Rule} :
    firstFault? earlier rules = none ↔
      WellFormed rules ∧
        ∀ other ∈ earlier, ∀ rule ∈ rules, other.Compatible rule := by
  induction rules generalizing earlier with
  | nil =>
      have empty : WellFormed [] := ⟨by simp, .nil⟩
      simp [firstFault?, empty]
  | cons rule rest induction =>
      have step : firstFault? earlier (rule :: rest) = none ↔
          rule.fault? earlier = none ∧
            firstFault? (rule :: earlier) rest = none := by
        rw [firstFault?]
        cases rule.fault? earlier <;> simp
      rw [step, Rule.fault?_eq_none_iff, induction]
      constructor
      · rintro ⟨⟨readable, behindEarlier⟩, wellFormed, behindBoth⟩
        refine ⟨⟨?_, ?_⟩, ?_⟩
        · simpa using ⟨readable, wellFormed.readable⟩
        · exact List.pairwise_cons.mpr
            ⟨behindBoth rule List.mem_cons_self, wellFormed.compatible⟩
        · intro other member
          simpa using ⟨behindEarlier other member,
            behindBoth other (List.mem_cons_of_mem rule member)⟩
      · rintro ⟨wellFormed, behindEarlier⟩
        have compatible := List.pairwise_cons.mp wellFormed.compatible
        refine ⟨⟨wellFormed.readable rule List.mem_cons_self, ?_⟩,
          ⟨?_, compatible.2⟩, ?_⟩
        · intro other member
          exact behindEarlier other member rule List.mem_cons_self
        · intro row member
          exact wellFormed.readable row (List.mem_cons_of_mem rule member)
        · intro other member row rowMember
          rcases List.mem_cons.mp member with rfl | older
          · exact compatible.1 row rowMember
          · exact behindEarlier other older row
              (List.mem_cons_of_mem rule rowMember)

namespace Grammar

variable {grammar : Grammar} {rule : Rule} {token : String}
  {category : Category}

theorem wellFormed (grammar : Grammar) : WellFormed grammar.rules :=
  (firstFault?_eq_none_iff.mp grammar.accepted).1

theorem eq_of_spells {other : Rule} (member : rule ∈ grammar.rules)
    (otherMember : other ∈ grammar.rules)
    (spelled : rule.spells token = true)
    (otherSpelled : other.spells token = true) : rule = other := by
  rw [Rule.spells_iff] at spelled otherSpelled
  by_contra different
  have compatible :=
    grammar.wellFormed.compatible.forall member otherMember different
  have apart := compatible.exactly
  simp [Rule.clashesExactly, spelled.1, spelled.2, otherSpelled.1,
    otherSpelled.2] at apart

/-- Two spellings of one length which begin the same word are equal, so their
rows would clash. -/
theorem eq_of_leads {other : Rule} (member : rule ∈ grammar.rules)
    (otherMember : other ∈ grammar.rules) (leads : rule.leads token = true)
    (otherLeads : other.leads token = true)
    (sameLength : rule.key.length = other.key.length) : rule = other := by
  rw [Rule.leads_iff] at leads otherLeads
  rw [← String.length_toList, ← String.length_toList] at sameLength
  have beginning : rule.key.toList <+: other.key.toList :=
    List.prefix_of_prefix_length_le leads.2 otherLeads.2
      (Nat.le_of_eq sameLength)
  have sameKey : rule.key = other.key :=
    String.toList_inj.mp (beginning.eq_of_length sameLength)
  by_contra different
  have compatible :=
    grammar.wellFormed.compatible.forall member otherMember different
  have apart := compatible.leading
  simp [Rule.clashesLeading, leads.1, otherLeads.1, sameKey] at apart

theorem candidates_of_spells (member : rule ∈ grammar.rules)
    (spelled : rule.spells token = true) :
    ∃ others, grammar.candidates token = rule :: others := by
  unfold candidates
  have listed : rule ∈ grammar.rules.filter (·.spells token) :=
    List.mem_filter.mpr ⟨member, spelled⟩
  cases rows : grammar.rules.filter (·.spells token) with
  | nil => simp [rows] at listed
  | cons head rest =>
      have headListed : head ∈ grammar.rules.filter (·.spells token) := by
        simp [rows]
      obtain ⟨headMember, headSpelled⟩ := List.mem_filter.mp headListed
      have same : head = rule :=
        eq_of_spells headMember member headSpelled spelled
      exact ⟨_, by rw [same, List.cons_append]⟩

/-- A word which is the spelling of a row is read by that row, if the row
finds its value. -/
theorem read_of_spells {next? : Option String} {tokens : List String}
    (member : rule ∈ grammar.rules)
    (spelled : rule.spells token = true)
    (taken : rule.take? token next? = some tokens) :
    grammar.read token next? = ⟨rule.category, tokens⟩ := by
  obtain ⟨others, candidates⟩ := candidates_of_spells member spelled
  have selected : grammar.select? token next? = some (rule, tokens) := by
    simp [select?, candidates, taken]
  exact read_of_select? selected

theorem standsAlone_of_spells (member : rule ∈ grammar.rules)
    (spelled : rule.spells token = true) (plain : rule.arity = 0) :
    grammar.StandsAlone token rule.category := by
  intro next?
  exact read_of_spells member spelled (by simp [Rule.take?, plain])

theorem takesNext_of_spells (member : rule ∈ grammar.rules)
    (spelled : rule.spells token = true) (valued : rule.arity ≠ 0)
    (loose : rule.sticky = false) :
    grammar.TakesNext token rule.category := by
  intro next
  have whole : token.length ≤ rule.key.length :=
    Nat.le_of_eq (congrArg String.length (Rule.spells_iff.mp spelled).2.symm)
  exact read_of_spells member spelled
    (Rule.take?_eq_pair_iff.mpr ⟨valued, whole, loose, rfl⟩)

theorem mem_longestFirst {rows : List Rule} :
    rule ∈ longestFirst rows ↔ rule ∈ rows :=
  (longestFirst_perm rows).mem_iff

theorem mem_candidates : rule ∈ grammar.candidates token ↔
    rule ∈ grammar.rules ∧
      (rule.spells token = true ∨ rule.leads token = true) := by
  simp [candidates, mem_longestFirst, and_or_left]

/-- A word which takes the next one is the spelling of a row that has its
value apart. -/
theorem TakesNext.exists_rule (takesNext : grammar.TakesNext token category) :
    ∃ rule ∈ grammar.rules, rule.key = token ∧ rule.arity = 1 ∧
      rule.sticky = false ∧ rule.category = category := by
  cases selected : grammar.select? token (some token) with
  | none =>
      have alone := standsAlone_of_select?_eq_none selected
      exact (not_standsAlone_of_takesNext takesNext alone).elim
  | some selection =>
      obtain ⟨rule, tokens⟩ := selection
      have equality := (read_of_select? selected).symm.trans (takesNext token)
      simp only [Flag.mk.injEq] at equality
      obtain ⟨sameCategory, sameTokens⟩ := equality
      obtain ⟨candidate, taken⟩ := select?_eq_some selected
      dsimp only at candidate taken
      rw [sameTokens, Rule.take?_eq_pair_iff] at taken
      obtain ⟨valued, whole, loose, _⟩ := taken
      obtain ⟨member, described⟩ := mem_candidates.mp candidate
      have key : rule.key = token := by
        rcases described with spelled | leads
        · exact (Rule.spells_iff.mp spelled).2
        · have beginning := (Rule.leads_iff.mp leads).2
          exact String.toList_inj.mp (beginning.eq_of_length_le whole)
      have one : rule.arity = 1 :=
        (grammar.wellFormed.readable rule member).arity_eq.resolve_left valued
      exact ⟨rule, member, key, one, loose, sameCategory⟩

end Grammar

end CompilerCalls
