import CompilerCalls.Flag.Rule
import CompilerCalls.Text.Quoted

/-!
# Flag grammars

A flag table is a grammar when each of its rows can describe some word in its
own right: the spelling is not empty, the flag takes at most one value, a
value which has to be part of the word has a place there, and no spelling
stands twice for the same comparison.
-/

namespace CompilerCalls

inductive GrammarFault where
  | emptyKey (category : Category)
  | unsupportedArity (key : String) (arity : Int)
  /-- The value has to be part of the word, but the word has to be the
  spelling alone. -/
  | unreachableValue (key : String)
  | twoExact (key : String)
  | twoLeading (key : String)
  deriving DecidableEq, Repr

def GrammarFault.message : GrammarFault → String
  | .emptyKey category => "empty flag spelling for category " ++ category.label
  | .unsupportedArity key arity =>
      "flag " ++ Text.quoted key ++ " has unsupported arity " ++ arity.repr
  | .unreachableValue key =>
      "flag " ++ Text.quoted key ++ " is exact-only but requires a glued value"
  | .twoExact key => "flag " ++ Text.quoted key ++ " has two exact entries"
  | .twoLeading key => "flag " ++ Text.quoted key ++ " has two partial entries"

namespace Rule

/-- Both rows can describe a word equal to their common spelling. -/
def clashesExactly (left right : Rule) : Bool :=
  left.mode.allowsExact && right.mode.allowsExact && left.key == right.key

/-- Both rows can describe every word which begins with their common
spelling. -/
def clashesLeading (left right : Rule) : Bool :=
  left.mode.allowsLeading && right.mode.allowsLeading && left.key == right.key

/-- The first reason to refuse a row after the rows before it. -/
def fault? (earlier : List Rule) (rule : Rule) : Option GrammarFault :=
  if rule.key = "" then some (.emptyKey rule.category)
  else if rule.arity ≠ 0 ∧ rule.arity ≠ 1 then
    some (.unsupportedArity rule.key rule.arity)
  else if rule.mode = .exact ∧ rule.arity = 1 ∧ rule.sticky = true then
    some (.unreachableValue rule.key)
  else if earlier.any (·.clashesExactly rule) then some (.twoExact rule.key)
  else if earlier.any (·.clashesLeading rule) then some (.twoLeading rule.key)
  else none

end Rule

/-- The fault of the first row which is refused, when the rows are looked at
one after the other behind the earlier ones. -/
def firstFault? (earlier : List Rule) : List Rule → Option GrammarFault
  | [] => none
  | rule :: rest =>
      match rule.fault? earlier with
      | some fault => some fault
      | none => firstFault? (rule :: earlier) rest

structure Grammar where
  rules : List Rule
  accepted : firstFault? [] rules = none

namespace Grammar

/-- The grammar of a table, or the first fault of the table. -/
def ofRules (rules : List Rule) : Except GrammarFault Grammar :=
  match found : firstFault? [] rules with
  | none => .ok ⟨rules, found⟩
  | some fault => .error fault

end Grammar

end CompilerCalls
