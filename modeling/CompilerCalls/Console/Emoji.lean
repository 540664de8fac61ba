import CompilerCalls.Console.EmojiTable
import CompilerCalls.Text.Lowercase
import CompilerCalls.Text.Space

/-!
# Codes of pictures

The name of a picture between two colons stands for the picture.  An ending of
the name may ask for the picture in colours or as a plain sign.  A code with a
name that is not known stays as it is.
-/

namespace CompilerCalls.Console

def wordPairs : List String → List (String × String)
  | name :: picture :: rest => (name, picture) :: wordPairs rest
  | _ => []

/-- The pictures with their names, in lower case. -/
def emojiTable : List (String × String) :=
  emojiLines.flatMap fun line =>
    wordPairs ((Text.words line.toList).map String.ofList)

/-- The picture with a name, whatever the case of the name. -/
def emoji? (name : List Char) : Option String :=
  emojiTable.lookup (String.ofList (Text.lowercase name))

/-- A name without its ending, if it has this ending. -/
def withoutEnding? (ending : String) (name : List Char) :
    Option (List Char) :=
  let ending := ending.toList
  if ending.isSuffixOf name then some (name.take (name.length - ending.length))
  else none

/-- The name in a code without the ending which asks for a form, and the mark
for that form. -/
def splitForm (name : List Char) : List Char × List Char :=
  match withoutEnding? "-emoji" name with
  | some name => (name, ['\ufe0f'])
  | none =>
      match withoutEnding? "-text" name with
      | some name => (name, ['\ufe0e'])
      | none => (name, [])

/-- What a console shows for a code with a name. -/
def shownCode (name : List Char) : List Char :=
  let split := splitForm name
  match emoji? split.1 with
  | some picture => picture.toList ++ split.2
  | none => ':' :: name ++ [':']

/-- What follows a colon up to the next one, and what follows that.  A name
has no space in it. -/
def codeName? (text : List Char) : Option (List Char × List Char) :=
  let isInside (character : Char) : Bool :=
    character != ':' && !Text.isSpace character
  match text.dropWhile isInside with
  | ':' :: later => some (text.takeWhile isInside, later)
  | _ => none

/-- A text with its codes replaced; the number bounds how many steps are
taken, each of at least one character. -/
def withEmojiWithin : Nat → List Char → List Char
  | 0, text => text
  | _, [] => []
  | steps + 1, character :: rest =>
      match if character = ':' then codeName? rest else none with
      | some (name, later) => shownCode name ++ withEmojiWithin steps later
      | none => character :: withEmojiWithin steps rest

def withEmoji (text : List Char) : List Char :=
  withEmojiWithin text.length text

end CompilerCalls.Console
