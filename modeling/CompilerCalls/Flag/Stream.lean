import CompilerCalls.Flag.Reading

/-!
# Reading the words of a call

The words are read from left to right without going back.  Each word belongs
to exactly one flag, as its spelling or as its value.
-/

namespace CompilerCalls

namespace Grammar

/-- The flags of a list of words.  A flag with a single word leaves the next
word to be read; any other has taken it. -/
def parse (grammar : Grammar) : List String → List Flag
  | [] => []
  | [token] => [grammar.read token none]
  | token :: next :: rest =>
      let flag := grammar.read token (some next)
      flag ::
        if flag.tokens.length ≤ 1 then grammar.parse (next :: rest)
        else grammar.parse rest

@[simp] theorem parse_nil (grammar : Grammar) : grammar.parse [] = [] := rfl

end Grammar

inductive PositionFault where
  | pastEnd
  deriving DecidableEq, Repr

def PositionFault.message : PositionFault → String
  | .pastEnd => "list index out of range"

/-- The flag which one way reads at a position of a list of words. -/
def Matcher.readAt (matcher : Matcher) (grammar : Grammar)
    (tokens : List String) (position : Nat) :
    Except PositionFault (Option Flag) :=
  match tokens.drop position with
  | [] => .error .pastEnd
  | token :: rest => .ok (matcher.read? grammar token rest.head?)

end CompilerCalls
