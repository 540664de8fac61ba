/-!
# Consoles

A console is asked to print lines and tables.  Their texts are written in its
markup, and how it shows them depends on its stream: on the width, on colours,
and on the characters which the stream can hold.  So a console is any function
from what is printed to what is left on the stream.
-/

namespace CompilerCalls

namespace Console

/-- Why the markup of a text cannot be read. -/
inductive MarkupFault where
  | unmatchedClosing
  | malformedAction
  | unreadableNumber
  deriving DecidableEq, Repr

namespace Markup

/-- The character can follow the bracket of a tag. -/
def startsTag (character : Char) : Bool :=
  ('a' ≤ character && character ≤ 'z') || character = '#' ||
    character = '/' || character = '@'

def isInside (character : Char) : Bool := character != '[' && character != ']'

end Markup

end Console

inductive PrintFault where
  | markup (fault : Console.MarkupFault)
  /-- The stream cannot hold some character. -/
  | encoding
  | other (text : String)
  deriving DecidableEq, Repr

structure TableForm where
  headingStyle : String
  borderStyle? : Option String
  isBoxed : Bool
  /-- The lines above and below a text. -/
  paddingLines : Nat
  /-- The columns on either side of a text. -/
  paddingColumns : Nat

inductive Print where
  /-- A text and the end of its line. -/
  | line (text : String)
  | table (form : TableForm) (headings : List String)
      (rows : List (List String))

/-- What a console leaves on its stream, or why it cannot print. -/
abbrev Console := Print → Except PrintFault String

end CompilerCalls
