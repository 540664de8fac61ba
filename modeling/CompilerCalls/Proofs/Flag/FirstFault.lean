import CompilerCalls.Proofs.Flag.TableOrder
import Mathlib.Order.Bounds.Basic

/-!
# The fault of a refused table

`Fails` says which check on a row is the first to fail, given the rows before
it, without an order in which rows are kept.  A table is refused at the first
row which fails a check, so the rows before that row make a table which is
accepted, and the fault of the table is the fault of that row.

A table is accepted exactly when each row is readable and no two places of the
table hold one spelling for the same comparison.
-/

namespace CompilerCalls

namespace Rule

variable {earlier others : List Rule} {left right rule : Rule}
  {fault : GrammarFault}

/-- Two rows have one spelling, and both of them allow a comparison. -/
def Share (allows : MatchMode → Bool) (left right : Rule) : Prop :=
  left.key = right.key ∧ allows left.mode = true ∧ allows right.mode = true

theorem clashesExactly_iff :
    left.clashesExactly right = true ↔ Share (·.allowsExact) left right := by
  simp [clashesExactly, Share, and_comm]

theorem clashesLeading_iff :
    left.clashesLeading right = true ↔
      Share (·.allowsLeading) left right := by
  simp [clashesLeading, Share, and_comm]

/-- The first check on a row which fails behind the rows before it. -/
inductive Fails (earlier : List Rule) (rule : Rule) :
    GrammarFault → Prop where
  | emptyKey :
      rule.key = "" →
      Fails earlier rule (.emptyKey rule.category)
  | unsupportedArity :
      rule.key ≠ "" →
      rule.arity ≠ 0 → rule.arity ≠ 1 →
      Fails earlier rule (.unsupportedArity rule.key rule.arity)
  | unreachableValue :
      rule.key ≠ "" →
      rule.mode = .exact → rule.arity = 1 → rule.sticky = true →
      Fails earlier rule (.unreachableValue rule.key)
  | twoExact {other : Rule} :
      rule.Readable →
      other ∈ earlier → Share (·.allowsExact) other rule →
      Fails earlier rule (.twoExact rule.key)
  | twoLeading {other : Rule} :
      rule.Readable →
      (∀ row ∈ earlier, ¬Share (·.allowsExact) row rule) →
      other ∈ earlier → Share (·.allowsLeading) other rule →
      Fails earlier rule (.twoLeading rule.key)

/-- The order of the rows before a row does not count. -/
theorem Fails.of_perm (fails : rule.Fails earlier fault)
    (permuted : earlier.Perm others) : rule.Fails others fault := by
  cases fails with
  | emptyKey unnamed => exact .emptyKey unnamed
  | unsupportedArity named notNone notOne =>
      exact .unsupportedArity named notNone notOne
  | unreachableValue named exactly one sticky =>
      exact .unreachableValue named exactly one sticky
  | twoExact readable member share =>
      exact .twoExact readable (permuted.mem_iff.mp member) share
  | twoLeading readable noneExact member share =>
      refine .twoLeading readable ?_ (permuted.mem_iff.mp member) share
      intro row rowMember
      exact noneExact row (permuted.mem_iff.mpr rowMember)

theorem fault?_eq_some_iff :
    rule.fault? earlier = some fault ↔ rule.Fails earlier fault := by
  constructor
  · intro found
    unfold fault? at found
    split at found
    · rename_i unnamed
      obtain rfl := Option.some.inj found
      exact .emptyKey unnamed
    rename_i named
    split at found
    · rename_i uncounted
      obtain rfl := Option.some.inj found
      exact .unsupportedArity named uncounted.1 uncounted.2
    rename_i counted
    split at found
    · rename_i unreachable
      obtain rfl := Option.some.inj found
      obtain ⟨exactly, one, sticky⟩ := unreachable
      exact .unreachableValue named exactly one sticky
    rename_i reachable
    have readable : rule.Readable := ⟨named, by omega, reachable⟩
    split at found
    · rename_i clash
      obtain rfl := Option.some.inj found
      obtain ⟨other, member, share⟩ := List.any_eq_true.mp clash
      exact .twoExact readable member (clashesExactly_iff.mp share)
    rename_i noneExact
    split at found
    · rename_i clash
      obtain rfl := Option.some.inj found
      obtain ⟨other, member, share⟩ := List.any_eq_true.mp clash
      refine .twoLeading readable ?_ member (clashesLeading_iff.mp share)
      intro row rowMember rowShare
      exact noneExact (List.any_eq_true.mpr
        ⟨row, rowMember, clashesExactly_iff.mpr rowShare⟩)
    · contradiction
  · intro fails
    cases fails with
    | emptyKey unnamed => simp [fault?, unnamed]
    | unsupportedArity named notNone notOne =>
        simp [fault?, named, notNone, notOne]
    | unreachableValue named exactly one sticky =>
        simp [fault?, named, exactly, one, sticky]
    | twoExact readable member share =>
        have clash : earlier.any (·.clashesExactly rule) = true :=
          List.any_eq_true.mpr ⟨_, member, clashesExactly_iff.mpr share⟩
        rw [fault?_of_readable readable, if_pos clash]
    | twoLeading readable noneExact member share =>
        have apart : ¬earlier.any (·.clashesExactly rule) = true := by
          intro clash
          obtain ⟨row, rowMember, rowShare⟩ := List.any_eq_true.mp clash
          exact noneExact row rowMember (clashesExactly_iff.mp rowShare)
        have clash : earlier.any (·.clashesLeading rule) = true :=
          List.any_eq_true.mpr ⟨_, member, clashesLeading_iff.mpr share⟩
        rw [fault?_of_readable readable, if_neg apart, if_pos clash]

end Rule

variable {earlier rules : List Rule} {fault : GrammarFault}

/-- The scan goes on behind some rows unless it has stopped at one of them. -/
theorem firstFault?_append (earlier before behind : List Rule) :
    firstFault? earlier (before ++ behind) =
      (firstFault? earlier before).or
        (firstFault? (before.reverse ++ earlier) behind) := by
  induction before generalizing earlier with
  | nil => rfl
  | cons rule before induction =>
      cases found : rule.fault? earlier with
      | some fault => simp [firstFault?, found]
      | none =>
          rw [List.cons_append, firstFault?, firstFault?, found]
          simpa using induction (rule :: earlier)

theorem exists_refused_of_firstFault?
    (found : firstFault? earlier rules = some fault) :
    ∃ before rule behind, rules = before ++ rule :: behind ∧
      firstFault? earlier before = none ∧
        rule.fault? (before.reverse ++ earlier) = some fault := by
  induction rules generalizing earlier with
  | nil => contradiction
  | cons first rest induction =>
      rw [firstFault?] at found
      cases looked : first.fault? earlier with
      | some other =>
          rw [looked] at found
          obtain rfl := Option.some.inj found
          exact ⟨[], first, rest, rfl, rfl, looked⟩
      | none =>
          rw [looked] at found
          obtain ⟨before, rule, behind, rfl, accepted, refused⟩ :=
            induction found
          refine ⟨first :: before, rule, behind, rfl, ?_, ?_⟩
          · simp [firstFault?, looked, accepted]
          · simpa using refused

/-- The scan stops at the first row which fails a check. -/
theorem firstFault?_nil_eq_some_iff :
    firstFault? [] rules = some fault ↔
      ∃ before rule behind, rules = before ++ rule :: behind ∧
        firstFault? [] before = none ∧ rule.Fails before fault := by
  constructor
  · intro found
    obtain ⟨before, rule, behind, rfl, accepted, refused⟩ :=
      exists_refused_of_firstFault? found
    rw [List.append_nil] at refused
    have fails := Rule.fault?_eq_some_iff.mp refused
    exact ⟨before, rule, behind, rfl, accepted,
      fails.of_perm (List.reverse_perm before)⟩
  · rintro ⟨before, rule, behind, rfl, accepted, fails⟩
    have refused : rule.fault? (before.reverse ++ []) = some fault := by
      rw [List.append_nil]
      exact Rule.fault?_eq_some_iff.mpr
        (fails.of_perm (List.reverse_perm before).symm)
    rw [firstFault?_append, accepted, Option.none_or, firstFault?, refused]

theorem firstFault?_nil_of_beginning {before : List Rule}
    (accepted : firstFault? [] rules = none) (beginning : before <+: rules) :
    firstFault? [] before = none := by
  obtain ⟨behind, rfl⟩ := beginning
  rw [firstFault?_append, Option.or_eq_none_iff] at accepted
  exact accepted.1

/-- Well-formedness speaks about places: a row which stands twice clashes with
itself if it shares its spelling for a comparison. -/
theorem wellFormed_iff_places :
    WellFormed rules ↔
      (∀ rule ∈ rules, rule.Readable) ∧
      ∀ (first second : Nat) (firstWithin : first < rules.length)
        (secondWithin : second < rules.length), first ≠ second →
        ¬Rule.Share (·.allowsExact) rules[first] rules[second] ∧
          ¬Rule.Share (·.allowsLeading) rules[first] rules[second] := by
  have compatible_iff : ∀ left right : Rule,
      left.Compatible right ↔ ¬Rule.Share (·.allowsExact) left right ∧
        ¬Rule.Share (·.allowsLeading) left right := by
    intro left right
    rw [← Rule.clashesExactly_iff, ← Rule.clashesLeading_iff,
      Bool.not_eq_true, Bool.not_eq_true]
    exact ⟨fun compatible => ⟨compatible.exactly, compatible.leading⟩,
      fun apart => ⟨apart.1, apart.2⟩⟩
  simp only [← compatible_iff]
  constructor
  · intro wellFormed
    refine ⟨wellFormed.readable, ?_⟩
    intro first second firstWithin secondWithin different
    have ordered := List.pairwise_iff_getElem.mp wellFormed.compatible
    rcases Nat.lt_or_gt_of_ne different with before | behind
    · exact ordered first second firstWithin secondWithin before
    · exact Std.Symm.symm _ _
        (ordered second first secondWithin firstWithin behind)
  · rintro ⟨readable, apart⟩
    refine ⟨readable, List.pairwise_iff_getElem.mpr ?_⟩
    intro first second firstWithin secondWithin before
    exact apart first second firstWithin secondWithin (Nat.ne_of_lt before)

namespace Grammar

/-- The check lets a table through as it is. -/
def Accepts (rules : List Rule) : Prop :=
  ∃ grammar, ofRules rules = .ok grammar ∧ grammar.rules = rules

theorem accepts_iff : Accepts rules ↔ firstFault? [] rules = none := by
  constructor
  · rintro ⟨grammar, _, rfl⟩
    exact grammar.accepted
  · intro accepted
    exact ⟨⟨rules, accepted⟩, ofRules_rules ⟨rules, accepted⟩, rfl⟩

theorem ofRules_eq_error_iff :
    ofRules rules = .error fault ↔ firstFault? [] rules = some fault := by
  unfold ofRules
  split
  · rename_i passed
    simp [passed]
  · rename_i other found
    simp [found]

/-- A row which fails behind an accepted table makes the longer table one
which is refused, and no shorter one is. -/
theorem isLeast_of_fails {before behind : List Rule} {rule : Rule}
    (accepted : firstFault? [] before = none)
    (fails : rule.Fails before fault) :
    IsLeast {index | Accepts ((before ++ rule :: behind).take index) ∧
      ¬Accepts ((before ++ rule :: behind).take (index + 1))}
      before.length := by
  have refused : firstFault? [] (before ++ [rule]) = some fault :=
    firstFault?_nil_eq_some_iff.mpr
      ⟨before, rule, [], rfl, accepted, fails⟩
  constructor
  · constructor
    · rw [List.take_left, accepts_iff]
      exact accepted
    · rw [List.take_length_add_append, accepts_iff]
      simp [refused]
  · rintro index ⟨_, notAccepted⟩
    by_contra shorter
    apply notAccepted
    rw [List.take_append_of_le_length (by omega), accepts_iff]
    exact firstFault?_nil_of_beginning accepted (List.take_prefix _ _)

/-- The check of a table answers for every table.  It lets exactly the
well-formed tables through.  From any other it names the fault of the row at
the first place up to which the table is accepted, and behind which it is
not. -/
theorem ofRules_decides (rules : List Rule) :
    (Accepts rules ↔
      (∀ rule ∈ rules, rule.key ≠ "" ∧ (rule.arity = 0 ∨ rule.arity = 1) ∧
        ¬(rule.mode = .exact ∧ rule.arity = 1 ∧ rule.sticky = true)) ∧
      ∀ (first second : Nat) (firstWithin : first < rules.length)
        (secondWithin : second < rules.length), first ≠ second →
        ¬Rule.Share (·.allowsExact) rules[first] rules[second] ∧
          ¬Rule.Share (·.allowsLeading) rules[first] rules[second]) ∧
    ∀ fault, ofRules rules = .error fault ↔
      ∃ index row,
        IsLeast {index | Accepts (rules.take index) ∧
          ¬Accepts (rules.take (index + 1))} index ∧
        rules[index]? = some row ∧ row.Fails (rules.take index) fault := by
  constructor
  · rw [accepts_iff, firstFault?_nil_eq_none_iff, wellFormed_iff_places]
    apply and_congr_left
    intro _
    refine forall₂_congr fun rule _ => ?_
    exact ⟨fun readable => ⟨readable.key_ne_empty, readable.arity_eq,
      readable.reachable⟩, fun ⟨named, counted, reachable⟩ =>
        ⟨named, counted, reachable⟩⟩
  · intro fault
    rw [ofRules_eq_error_iff, firstFault?_nil_eq_some_iff]
    constructor
    · rintro ⟨before, row, behind, rfl, accepted, fails⟩
      refine ⟨before.length, row, isLeast_of_fails accepted fails, ?_, ?_⟩
      · simp
      · rwa [List.take_left]
    · rintro ⟨index, row, least, present, fails⟩
      refine ⟨rules.take index, row, rules.drop (index + 1), ?_, ?_, fails⟩
      · obtain ⟨within, rfl⟩ := List.getElem?_eq_some_iff.mp present
        rw [← List.drop_eq_getElem_cons within, List.take_append_drop]
      · exact accepts_iff.mp least.1.1

/-- A row which clashes for both comparisons is refused for the exact one, and
rows behind it do not count. -/
example :
    firstFault? [] [⟨"-o", 1, .both, .outputPath, false⟩,
      ⟨"-o", 0, .both, .other, false⟩, ⟨"", 2, .exact, .other, false⟩] =
        some (.twoExact "-o") := by
  decide +kernel

end Grammar

end CompilerCalls
