import CompilerCalls.Proofs.Flag.FirstFault
import CompilerCalls.Proofs.Flag.Priority

/-!
# Rows which are selected

A row of an accepted table is selected for some words, unless other spellings
go on behind its own with every character there is.  A row which only compares
the whole word is selected for its spelling with a word behind it.  Any other
row is selected for its spelling and one more character with which no spelling
goes on.

A row for the whole word whose value has to be part of the word is never
selected, for the word has no room for the value.  Such a row is refused.
-/

namespace CompilerCalls

namespace Rule

/-- A value which has to be part of the word has no room in the spelling. -/
theorem take?_eq_none_of_sticky {rule : Rule} {token : String}
    (exactly : rule.mode = .exact) (one : rule.arity = 1)
    (sticky : rule.sticky = true) (applies : rule.Applies token)
    (next? : Option String) : rule.take? token next? = none := by
  obtain rfl := applies.key_eq_of_exact exactly
  simp [take?, one, sticky]

end Rule

namespace Grammar

variable {grammar : Grammar} {rule : Rule} {token : String}

/-- At a position, the row is the first candidate which takes any words. -/
def SelectsAt (grammar : Grammar) (tokens : List String) (position : Nat)
    (rule : Rule) : Prop :=
  ∃ token before behind words, tokens[position]? = some token ∧
    grammar.candidates token = before ++ rule :: behind ∧
    (∀ row ∈ before, row.take? token tokens[position + 1]? = none) ∧
    rule.take? token tokens[position + 1]? = some words

theorem Chosen.selectsAt {tokens : List String} {position : Nat}
    (chosen : grammar.Chosen token tokens[position + 1]? rule)
    (present : tokens[position]? = some token) :
    grammar.SelectsAt tokens position rule := by
  obtain ⟨words, _, selected⟩ := select?_of_chosen chosen
  have taken := (select?_eq_some selected).2
  rw [select?_eq_firstFeasible?] at selected
  obtain ⟨before, behind, listed, _, passed⟩ :=
    Rule.firstFeasible?_eq_some selected
  refine ⟨token, before, behind, words, present, listed, ?_, taken⟩
  intro row member
  exact Rule.take?_eq_none_iff.mpr (passed row member)

/-- A character with which no spelling goes on behind the one of a row. -/
def LeavesFree (grammar : Grammar) (rule : Rule) (character : Char) : Prop :=
  ∀ other ∈ grammar.rules,
    ¬(rule.key.push character).toList <+: other.key.toList

/-- A word which goes on with a free character is read by the row with the
whole spelling before that character. -/
theorem chosen_push_of_leavesFree {character : Char}
    (member : rule ∈ grammar.rules)
    (leading : rule.mode.allowsLeading = true)
    (free : grammar.LeavesFree rule character) (next? : Option String) :
    grammar.Chosen (rule.key.push character) next? rule := by
  have beginning : rule.key.toList <+: (rule.key.push character).toList := by
    rw [String.toList_push]
    exact List.prefix_append _ _
  have leads : rule.leads (rule.key.push character) = true :=
    Rule.leads_iff.mpr ⟨leading, beginning⟩
  apply Chosen.of_leads member leads
  · rw [String.length_push]
    exact Nat.lt_succ_self _
  · intro other otherMember otherBeginning
    by_contra longer
    have whole : (rule.key.push character).toList.length ≤
        other.key.toList.length := by
      rw [String.length_toList, String.length_toList, String.length_push]
      omega
    have same : other.key.toList = (rule.key.push character).toList :=
      otherBeginning.eq_of_length_le whole
    exact free other otherMember (same ▸ List.prefix_rfl)

/-- A row for the whole word is selected where its spelling stands in front of
another word. -/
theorem chosen_key_of_exact (member : rule ∈ grammar.rules)
    (exactly : rule.mode = .exact) (next : String) :
    grammar.Chosen rule.key (some next) rule := by
  have readable := grammar.wellFormed.readable rule member
  have spelled : rule.spells rule.key = true := by
    rw [Rule.spells_iff, exactly]
    exact ⟨rfl, rfl⟩
  refine .spelled member spelled ?_
  rcases readable.arity_eq with plain | one
  · exact Or.inl plain
  · have loose : rule.sticky = false := by
      rw [← Bool.not_eq_true]
      exact fun sticky => readable.reachable ⟨exactly, one, sticky⟩
    exact Or.inr (Or.inr ⟨loose, rfl⟩)

theorem exists_selectsAt {character : Char} (member : rule ∈ grammar.rules)
    (free : grammar.LeavesFree rule character) :
    ∃ tokens, grammar.SelectsAt tokens 0 rule := by
  cases mode : rule.mode with
  | exact =>
      have chosen := chosen_key_of_exact member mode rule.key
      exact ⟨[rule.key, rule.key], chosen.selectsAt rfl⟩
  | leading | both =>
      have leading : rule.mode.allowsLeading = true := by rw [mode]; rfl
      have chosen := chosen_push_of_leavesFree member leading free none
      exact ⟨[rule.key.push character], chosen.selectsAt rfl⟩

theorem not_accepts_of_not_readable {rules : List Rule}
    (member : rule ∈ rules) (unreadable : ¬rule.Readable) :
    ¬Accepts rules := by
  intro accepted
  have wellFormed :=
    firstFault?_nil_eq_none_iff.mp (accepts_iff.mp accepted)
  exact unreadable (wellFormed.readable rule member)

/-- No row of an accepted table is there in vain, as long as some character
goes on behind its spelling in no other spelling.  A row for the whole word
whose value has to be part of the word never takes anything, and no table with
such a row is accepted. -/
theorem accepted_rows_are_live (grammar : Grammar) :
    (∀ rule ∈ grammar.rules, (∃ character, grammar.LeavesFree rule character) →
      ∃ tokens, grammar.SelectsAt tokens 0 rule) ∧
    ∀ dead : Rule,
      dead.mode = .exact → dead.arity = 1 → dead.sticky = true →
      (∀ rules, dead ∈ rules → ¬Accepts rules) ∧
        ∀ (tokens : List String) (position : Nat) (token : String),
          tokens[position]? = some token → dead.Applies token →
          dead.take? token tokens[position + 1]? = none := by
  constructor
  · rintro rule member ⟨character, free⟩
    exact exists_selectsAt member free
  · intro dead exactly one sticky
    constructor
    · intro rules member
      exact not_accepts_of_not_readable member fun readable =>
        readable.reachable ⟨exactly, one, sticky⟩
    · intro tokens position token _ applies
      exact Rule.take?_eq_none_of_sticky exactly one sticky applies _

/-- The value of `--sysroot` has to be part of the word, and words which go on
behind it are no business of the row for `--`. -/
theorem accepted_rows_are_live_sticky :
    (∃ tokens, gnu.SelectsAt tokens 0
      ⟨"--sysroot", 1, .both, .directorySearch, true⟩) ∧
      ¬Accepts [⟨"-q", 1, .exact, .other, true⟩] ∧
      Rule.take? ⟨"-q", 1, .exact, .other, true⟩ "-q" (some "a.c") = none := by
  obtain ⟨live, dead⟩ := gnu.accepted_rows_are_live
  have free : gnu.LeavesFree ⟨"--sysroot", 1, .both, .directorySearch, true⟩
      '=' := by
    unfold LeavesFree
    decide +kernel
  obtain ⟨refused, nothing⟩ :=
    dead ⟨"-q", 1, .exact, .other, true⟩ rfl rfl rfl
  exact ⟨live _ (by decide +kernel) ⟨'=', free⟩,
    refused _ List.mem_cons_self,
    nothing ["-q", "a.c"] 0 "-q" rfl (by decide)⟩

end Grammar

end CompilerCalls
