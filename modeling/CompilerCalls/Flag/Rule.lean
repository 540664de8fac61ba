import CompilerCalls.Flag.Category

/-!
# Rows of a flag table

A row describes one spelling of a flag: how the spelling is compared with a
word of the call, whether the flag takes a value, and where the value stands.
-/

namespace CompilerCalls

/-- How the spelling of a row is compared with a word. -/
inductive MatchMode where
  | exact
  | leading
  | both
  deriving DecidableEq, Repr

namespace MatchMode

def allowsExact : MatchMode → Bool
  | .exact => true
  | .leading => false
  | .both => true

def allowsLeading : MatchMode → Bool
  | .exact => false
  | .leading => true
  | .both => true

/-- The identifier which stands for a mode in written answers. -/
def id : MatchMode → String
  | .exact => "exact"
  | .leading => "partial"
  | .both => "both"

def ofId? (text : String) : Option MatchMode :=
  [exact, leading, both].find? fun mode => mode.id == text

end MatchMode

/-- One row of a flag table. -/
structure Rule where
  key : String
  /-- How many values the flag takes.  Only none and one can be read. -/
  arity : Int
  mode : MatchMode
  category : Category
  /-- The value has to be part of the word, so it never is the next word. -/
  sticky : Bool := false
  deriving DecidableEq, Repr

namespace Rule

/-- The spelling is the word, and the mode allows that. -/
def spells (rule : Rule) (token : String) : Bool :=
  rule.mode.allowsExact && rule.key == token

/-- The word begins with the spelling, and the mode allows that. -/
def leads (rule : Rule) (token : String) : Bool :=
  rule.mode.allowsLeading && rule.key.toList.isPrefixOf token.toList

/-- The words which the flag of a row takes, given the word that the row
describes and the word after it.  A value which is part of the word needs no
further word; a flag which lacks its value takes nothing. -/
def take? (rule : Rule) (token : String) (next? : Option String) :
    Option (List String) :=
  if rule.arity = 0 then some [token]
  else if rule.key.length < token.length then some [token]
  else if rule.sticky then none
  else next?.map fun next => [token, next]

theorem spells_iff {rule : Rule} {token : String} :
    rule.spells token = true ↔
      rule.mode.allowsExact = true ∧ rule.key = token := by
  simp [spells]

theorem leads_iff {rule : Rule} {token : String} :
    rule.leads token = true ↔
      rule.mode.allowsLeading = true ∧ rule.key.toList <+: token.toList := by
  simp [leads]

/-- A flag takes its own word, or that word and the next one. -/
theorem take?_eq_some {rule : Rule} {token : String} {next? : Option String}
    {tokens : List String} (taken : rule.take? token next? = some tokens) :
    tokens = [token] ∨ ∃ next, next? = some next ∧ tokens = [token, next] := by
  unfold take? at taken
  split at taken
  · exact Or.inl (Option.some.inj taken).symm
  · split at taken
    · exact Or.inl (Option.some.inj taken).symm
    · split at taken
      · contradiction
      · obtain ⟨next, present, equality⟩ := Option.map_eq_some_iff.mp taken
        exact Or.inr ⟨next, present, equality.symm⟩

end Rule

end CompilerCalls
