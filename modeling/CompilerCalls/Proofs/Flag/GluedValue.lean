import CompilerCalls.Proofs.Flag.Priority

/-!
# Values within a word and behind it

A word which goes on behind the spelling of a row is read by this row, as long
as no other spelling goes on behind it in the same way.  In the table of the
GNU drivers this holds for each row which takes its value in both forms, within
the word and behind it, whatever the value is.  So the value of such a flag can
be moved from one form to the other, and the flags around it stay as they are.
-/

namespace CompilerCalls

namespace Grammar

variable {grammar : Grammar} {rule : Rule} {value : String}

/-- A word which begins with a spelling that no other one goes on from is read
by the row of this spelling. -/
theorem standsAlone_of_leading (member : rule ∈ grammar.rules)
    (leading : rule.mode.allowsLeading = true)
    (unextended : ∀ other ∈ grammar.rules,
      rule.key.toList <+: other.key.toList → other.key = rule.key)
    (nonempty : value ≠ "") :
    grammar.StandsAlone (rule.key ++ value) rule.category := by
  have beginning : rule.key.toList <+: (rule.key ++ value).toList := by
    rw [String.toList_append]
    exact List.prefix_append _ _
  have leads : rule.leads (rule.key ++ value) = true :=
    Rule.leads_iff.mpr ⟨leading, beginning⟩
  have different : rule.key ≠ rule.key ++ value := by
    intro same
    have lengths := congrArg String.length same
    rw [String.length_append] at lengths
    exact nonempty (String.length_eq_zero_iff.mp (by omega))
  have longer : rule.key.length < (rule.key ++ value).length :=
    (Rule.Applies.length_lt_iff (Or.inr leads)).mpr different
  intro next?
  have chosen : grammar.Chosen (rule.key ++ value) next? rule := by
    apply Chosen.of_leads member leads longer
    intro other otherMember otherBeginning
    by_contra shorter
    have goesOn : rule.key.toList <+: other.key.toList := by
      apply List.prefix_of_prefix_length_le beginning otherBeginning
      rw [String.length_toList, String.length_toList]
      omega
    have same := unextended other otherMember goesOn
    exact shorter (Nat.le_of_eq (congrArg String.length same))
  obtain ⟨words, takes, selected⟩ := select?_of_chosen chosen
  have single : words = [rule.key ++ value] := by
    simpa [Rule.Takes, different] using takes
  rw [read_of_select? selected, single]

end Grammar

namespace Gnu

/-- The row takes its value within the word and, unless the value has to be
part of the word, behind it. -/
structure TakesEither (rule : Rule) : Prop where
  listed : rule ∈ rules
  mode : rule.mode = .both
  arity : rule.arity = 1

theorem key_eq_of_beginning :
    ∀ rule ∈ rules, rule.mode = .both → rule.arity = 1 →
      ∀ other ∈ rules, rule.key.toList <+: other.key.toList →
        other.key = rule.key := by
  decide +kernel

end Gnu

namespace Grammar

variable {rule : Rule} {value : String} {tokens : List String}
  {before behind : List Flag} {category : Category}

theorem gnu_standsAlone_glued (either : Gnu.TakesEither rule)
    (nonempty : value ≠ "") :
    gnu.StandsAlone (rule.key ++ value) rule.category := by
  have unextended :=
    Gnu.key_eq_of_beginning rule either.listed either.mode either.arity
  have leading : rule.mode.allowsLeading = true := by rw [either.mode]; rfl
  exact standsAlone_of_leading either.listed leading unextended nonempty

/-- A spelling with both comparisons has no second row, so it takes the next
word only for its own row. -/
theorem loose_of_gnu_takesNext (either : Gnu.TakesEither rule)
    (takesNext : gnu.TakesNext rule.key category) :
    rule.sticky = false ∧ rule.category = category := by
  obtain ⟨other, listed, key, one, loose, sameCategory⟩ :=
    takesNext.exists_rule
  have otherExactly := Gnu.allowsExact_of_loose other listed one loose
  have exactly : rule.mode.allowsExact = true := by rw [either.mode]; rfl
  have same : other = rule :=
    eq_of_spells listed either.listed
      (Rule.spells_iff.mpr ⟨otherExactly, key⟩)
      (Rule.spells_iff.mpr ⟨exactly, rfl⟩)
  exact ⟨same ▸ loose, same ▸ sameCategory⟩

/-- The value of a flag can be written into the word of the flag. -/
theorem Reads.glue_value (either : Gnu.TakesEither rule)
    (nonempty : value ≠ "")
    (reads : gnu.Reads tokens
      (before ++ ⟨category, [rule.key, value]⟩ :: behind)) :
    rule.category = category ∧
      gnu.Reads
        (Flags.words before ++ (rule.key ++ value) :: Flags.words behind)
        (before ++ ⟨category, [rule.key ++ value]⟩ :: behind) := by
  have takesNext := reads.takesNext_of_pair
    (List.mem_append_right _ List.mem_cons_self)
  obtain ⟨_, rfl⟩ := loose_of_gnu_takesNext either takesNext
  have standsAlone := gnu_standsAlone_glued either nonempty
  have replaced := reads.replace_flag ⟨rule.category, [rule.key ++ value]⟩
    fun later => .alone standsAlone later
  exact ⟨rfl, replaced⟩

/-- The value within the word of a flag can be written behind the spelling. -/
theorem Reads.split_value (either : Gnu.TakesEither rule)
    (loose : rule.sticky = false) (nonempty : value ≠ "")
    (reads : gnu.Reads tokens
      (before ++ ⟨category, [rule.key ++ value]⟩ :: behind)) :
    rule.category = category ∧
      gnu.Reads
        (Flags.words before ++ rule.key :: value :: Flags.words behind)
        (before ++ ⟨category, [rule.key, value]⟩ :: behind) := by
  have read := reads.eq_of_standsAlone
    (List.mem_append_right _ List.mem_cons_self) rfl
    (gnu_standsAlone_glued either nonempty)
  obtain rfl : category = rule.category := congrArg Flag.category read
  have takesNext := gnu_takesNext_of_mem either.listed either.arity loose
  have replaced := reads.replace_flag ⟨rule.category, [rule.key, value]⟩
    fun later => .pair takesNext later
  exact ⟨rfl, replaced⟩

end Grammar

end CompilerCalls
