import CompilerCalls.Flag.Grammar

/-!
# Reading one word of a call

The rows which could describe a word are tried in a fixed order: rows whose
spelling is the word come first, then rows whose spelling the word begins
with, longest spelling first.  A row whose value is missing is passed over.
A word which no row describes is a source.
-/

namespace CompilerCalls

/-- A flag as it stands in a call: its category and its words. -/
structure Flag where
  category : Category
  tokens : List String
  deriving DecidableEq, Repr

/-- Places a row before the first row whose spelling is not longer. -/
def insertByLength (rule : Rule) : List Rule → List Rule
  | [] => [rule]
  | head :: rest =>
      if head.key.length ≤ rule.key.length then rule :: head :: rest
      else head :: insertByLength rule rest

/-- Rows with the longest spelling first; rows of equal length keep their
order. -/
def longestFirst : List Rule → List Rule
  | [] => []
  | rule :: rest => insertByLength rule (longestFirst rest)

namespace Grammar

/-- The rows which could describe a word, best first.  A row with both modes
stands twice when its spelling is the word. -/
def candidates (grammar : Grammar) (token : String) : List Rule :=
  grammar.rules.filter (·.spells token) ++
    longestFirst (grammar.rules.filter (·.leads token))

/-- The first candidate which finds its value, with the words that it takes. -/
def select? (grammar : Grammar) (token : String) (next? : Option String) :
    Option (Rule × List String) :=
  (grammar.candidates token).findSome? fun rule =>
    (rule.take? token next?).map fun tokens => (rule, tokens)

end Grammar

/-- A way to read the flag which starts at a word. -/
inductive Matcher where
  | flag
  | source
  | everythingElse
  deriving DecidableEq, Repr

namespace Matcher

def chain : List Matcher := [flag, source, everythingElse]

/-- The flag which starts at a word, when it can be read in this way. -/
def read? (matcher : Matcher) (grammar : Grammar) (token : String)
    (next? : Option String) : Option Flag :=
  match matcher with
  | flag =>
      (grammar.select? token next?).map fun selection =>
        ⟨selection.1.category, selection.2⟩
  | source => some ⟨.source, [token]⟩
  | everythingElse => some ⟨.other, [token]⟩

end Matcher

namespace Grammar

/-- Some way in the chain reads every word, for the second one does. -/
theorem isSome_findSome?_chain (grammar : Grammar) (token : String)
    (next? : Option String) :
    (Matcher.chain.findSome? fun matcher =>
      matcher.read? grammar token next?).isSome = true := by
  simp [Matcher.chain, Matcher.read?, List.findSome?_isSome_iff]

def read (grammar : Grammar) (token : String) (next? : Option String) : Flag :=
  (Matcher.chain.findSome? fun matcher =>
    matcher.read? grammar token next?).get
      (grammar.isSome_findSome?_chain token next?)

/-- A selection is a candidate together with the words which it takes. -/
theorem select?_eq_some {grammar : Grammar} {token : String}
    {next? : Option String} {selection : Rule × List String}
    (selected : grammar.select? token next? = some selection) :
    selection.1 ∈ grammar.candidates token ∧
      selection.1.take? token next? = some selection.2 := by
  obtain ⟨rule, member, taken⟩ := List.exists_of_findSome?_eq_some selected
  obtain ⟨tokens, equality, rfl⟩ := Option.map_eq_some_iff.mp taken
  exact ⟨member, equality⟩

theorem read_of_select? {grammar : Grammar} {token : String}
    {next? : Option String} {selection : Rule × List String}
    (selected : grammar.select? token next? = some selection) :
    grammar.read token next? = ⟨selection.1.category, selection.2⟩ := by
  simp [read, Matcher.chain, Matcher.read?, selected]

theorem read_of_select?_eq_none {grammar : Grammar} {token : String}
    {next? : Option String} (unmatched : grammar.select? token next? = none) :
    grammar.read token next? = ⟨.source, [token]⟩ := by
  simp [read, Matcher.chain, Matcher.read?, unmatched]

/-- A flag has the word at which it starts, or that word and the next one. -/
theorem tokens_read (grammar : Grammar) (token : String)
    (next? : Option String) :
    (grammar.read token next?).tokens = [token] ∨
      ∃ next, next? = some next ∧
        (grammar.read token next?).tokens = [token, next] := by
  cases selected : grammar.select? token next? with
  | none =>
      rw [read_of_select?_eq_none selected]
      exact Or.inl rfl
  | some selection =>
      rw [read_of_select? selected]
      exact Rule.take?_eq_some (select?_eq_some selected).2

end Grammar

end CompilerCalls
