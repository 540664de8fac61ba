import CompilerCalls.Text.LetterCase

/-!
# Lower case

A text in lower case.  Nearly every letter has one letter in lower case,
whatever stands around it.  The dotted capital I becomes two characters, and
the capital sigma has a form of its own at the end of a word.
-/

namespace CompilerCalls.Text

/-- A letter stands next, once the characters which say nothing about case are
passed over. -/
def reachesLetter (text : List Char) : Bool :=
  match text.dropWhile isCaseIgnorable with
  | [] => false
  | character :: _ => isCased character

/-- A character in lower case, between what stands before it, nearest first,
and what follows. -/
def lowerBetween (before : List Char) (character : Char) (after : List Char) :
    List Char :=
  if character = 'İ' then ['i', '\u0307']
  else if character = 'Σ' then
    if reachesLetter before && !reachesLetter after then ['ς'] else ['σ']
  else [lowerChar character]

/-- A text in lower case, behind the given text. -/
def lowercaseBehind (before : List Char) : List Char → List Char
  | [] => []
  | character :: rest =>
      lowerBetween before character rest ++
        lowercaseBehind (character :: before) rest

def lowercase (text : List Char) : List Char := lowercaseBehind [] text

end CompilerCalls.Text
