import CompilerCalls.Text.Ranges

/-!
# Space

Space is every character which Unicode (version 14) counts as white space, and
the four separators among the controls.  A text is trimmed at its ends, or cut
into the words between space.
-/

namespace CompilerCalls.Text

def spaceRanges : List (Nat × Nat) :=
  [(0x9, 0xd), (0x1c, 0x20), (0x85, 0x85), (0xa0, 0xa0), (0x1680, 0x1680),
   (0x2000, 0x200a), (0x2028, 0x2029), (0x202f, 0x202f), (0x205f, 0x205f),
   (0x3000, 0x3000)]

def isSpace (character : Char) : Bool := inRanges spaceRanges character

/-- A text without the space at its ends. -/
def trimmed (text : List Char) : List Char :=
  ((text.dropWhile isSpace).reverse.dropWhile isSpace).reverse

/-- A word in front of others, if it is one. -/
def consWord (word : List Char) (others : List (List Char)) :
    List (List Char) :=
  if word = [] then others else word :: others

/-- The word at the front of a text, and the later ones.  Nothing is in front
where space or the end is. -/
def cutWords : List Char → List Char × List (List Char)
  | [] => ([], [])
  | character :: rest =>
      let following := cutWords rest
      if isSpace character then ([], consWord following.1 following.2)
      else (character :: following.1, following.2)

def words (text : List Char) : List (List Char) :=
  let front := cutWords text
  consWord front.1 front.2

end CompilerCalls.Text
