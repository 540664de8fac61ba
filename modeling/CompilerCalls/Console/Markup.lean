import CompilerCalls.Console.Emoji
import CompilerCalls.Console.Literal
import CompilerCalls.Console.Print
import CompilerCalls.Console.Style
import CompilerCalls.Text.WordChar

/-!
# Console markup

Messages for the console may hold tags in brackets, which say how what follows
is to look.  A plain console leaves the tags out.  Backslashes before a tag
keep it: of two only one is written, and a single one makes the tag a part of
the text.
-/

namespace CompilerCalls.Console

/-- A tag: what stands in its brackets, cut at the first equals sign. -/
structure Tag where
  name : List Char
  parameters? : Option (List Char)
  deriving DecidableEq, Repr

inductive Piece where
  | plain (text : List Char)
  | tag (tag : Tag)
  deriving DecidableEq, Repr

namespace Tag

def ofText (text : List Char) : Tag :=
  let isName (character : Char) : Bool := character != '='
  match text.dropWhile isName with
  | [] => ⟨text, none⟩
  | _ :: parameters => ⟨text.takeWhile isName, some parameters⟩

def style (tag : Tag) : List Char :=
  match tag.parameters? with
  | none => tag.name
  | some parameters => tag.name ++ ' ' :: parameters

def isAction (tag : Tag) : Bool := tag.name.head? == some '@'

/-- What has to be a literal in the parameters of an action: all of them, or
what stands in brackets behind the name of a function. -/
def argumentText (parameters : List Char) : List Char :=
  let isName (character : Char) : Bool :=
    Text.isWordChar character || character = '.'
  match parameters.dropWhile isName with
  | [] => ['(', ')']
  | '(' :: rest =>
      if rest.getLast? = some ')' ∧ '\n' ∉ rest then '(' :: rest
      else parameters
  | _ => parameters

def isReadable (tag : Tag) : Bool :=
  match tag.parameters? with
  | none | some [] => true
  | some parameters =>
      isLiteral (argumentText (Text.trimmed parameters))

end Tag

namespace Markup

/-- The text in the brackets of the tag at the front, and what follows it. -/
def tag? : List Char → Option (List Char × List Char)
  | '[' :: first :: rest =>
      if startsTag first then
        match rest.dropWhile isInside with
        | ']' :: later => some (first :: rest.takeWhile isInside, later)
        | _ => none
      else none
  | _ => none

/-- A text in which a bracket takes away the backslash before it. -/
def withPlainBrackets : List Char → List Char
  | [] => []
  | '\\' :: '[' :: rest => '[' :: withPlainBrackets rest
  | character :: rest => character :: withPlainBrackets rest

/-- The piece of a text without tags, which is given from its end. -/
def plainPiece (reversed : List Char) : List Piece :=
  if reversed = [] then []
  else [.plain (withPlainBrackets reversed.reverse)]

/-- The pieces for a tag behind a number of backslashes. -/
def tagPieces (backslashes : Nat) (text : List Char) : List Piece :=
  let kept := List.replicate (backslashes / 2) '\\'
  (if kept = [] then [] else [.plain kept]) ++
    if backslashes % 2 = 0 then [.tag (Tag.ofText text)]
    else [.plain ('[' :: text ++ [']'])]

/-- The pieces of a message, behind a text without tags and a number of
backslashes.  The first number bounds how many steps are taken, each of at
least one character. -/
def piecesBehind : Nat → List Char → Nat → List Char → List Piece
  | 0, reversed, backslashes, _ | _, reversed, backslashes, [] =>
      plainPiece (List.replicate backslashes '\\' ++ reversed)
  | steps + 1, reversed, backslashes, character :: rest =>
      if character = '\\' then
        piecesBehind steps reversed (backslashes + 1) rest
      else
        match tag? (character :: rest) with
        | some (text, later) =>
            plainPiece reversed ++ tagPieces backslashes text ++
              piecesBehind steps [] 0 later
        | none =>
            piecesBehind steps
              (character :: List.replicate backslashes '\\' ++ reversed) 0 rest

def pieces (message : List Char) : List Piece :=
  piecesBehind (message.length + 1) [] 0 message

/-- The control characters which a console acts on and which are left out. -/
def isControl (character : Char) : Bool :=
  [7, 8, 11, 12, 13].contains character.toNat

/-- What a console shows for a text without tags. -/
def shownPlain (text : List Char) : List Char :=
  (withEmoji text).filter (!isControl ·)

structure Span where
  style : List Char
  text : List Char
  deriving DecidableEq, Repr

/-- A tag which is not closed yet, with the text which was shown before it. -/
structure OpenTag where
  tag : Tag
  before : Nat
  deriving DecidableEq, Repr

/-- What has been shown of a message: the text from its end, the tags which are
open, innermost first, and the spans which are complete. -/
structure Progress where
  reversed : List Char := []
  length : Nat := 0
  opened : List OpenTag := []
  spans : List Span := []

namespace Progress

def spanOf (progress : Progress) (openTag : OpenTag) : Span :=
  ⟨openTag.tag.style,
    (progress.reversed.take (progress.length - openTag.before)).reverse⟩

def write (progress : Progress) (text : List Char) : Progress :=
  { progress with
    reversed := text.reverse ++ progress.reversed
    length := progress.length + text.length }

def openTag (progress : Progress) (tag : Tag) : Except MarkupFault Progress :=
  match styleName tag.name with
  | .error _ => .error .unreadableNumber
  | .ok name =>
      .ok { progress with
        opened := ⟨{ tag with name }, progress.length⟩ :: progress.opened }

def close (progress : Progress) (closed : OpenTag) :
    Except MarkupFault Progress :=
  let progress := { progress with opened := progress.opened.erase closed }
  if closed.tag.isAction then
    if closed.tag.isReadable then .ok progress else .error .malformedAction
  else .ok { progress with spans := progress.spanOf closed :: progress.spans }

/-- The innermost open tag is closed, or the innermost one with a name. -/
def closeNamed (progress : Progress) (name : List Char) :
    Except MarkupFault Progress :=
  let name := Text.trimmed name
  if name = [] then
    match progress.opened with
    | [] => .error .unmatchedClosing
    | innermost :: _ => progress.close innermost
  else
    match styleName name with
    | .error _ => .error .unreadableNumber
    | .ok name =>
        match progress.opened.find? fun openTag => openTag.tag.name = name with
        | none => .error .unmatchedClosing
        | some openTag => progress.close openTag

def add (progress : Progress) : Piece → Except MarkupFault Progress
  | .plain text => .ok (progress.write (shownPlain text))
  | .tag tag =>
      match tag.name with
      | '/' :: name => progress.closeNamed name
      | _ => progress.openTag tag

def addAll (progress : Progress) : List Piece → Except MarkupFault Progress
  | [] => .ok progress
  | piece :: rest =>
      match progress.add piece with
      | .error fault => .error fault
      | .ok progress => progress.addAll rest

/-- All spans, once every tag is closed. -/
def allSpans (progress : Progress) : List Span :=
  progress.spans ++ progress.opened.map progress.spanOf

end Progress

end Markup

end CompilerCalls.Console
