import CompilerCalls.Console.Markup
import CompilerCalls.Text.CellWidth

/-!
# Messages

A message is shown without its tags, with pictures in place of codes, and with
spaces in place of tabs.  It cannot be shown if its tags do not match, or if a
style which applies to something holds a number that cannot be read.
-/

namespace CompilerCalls.Console

/-- A text in which each tab is replaced by spaces, up to the next of the
columns which lie eight cells apart. -/
def expandedLine (line : List Char) : List Char :=
  let expandedPart (part : List Char) : List Char :=
    let part := part ++ [' ']
    part ++ List.replicate ((8 - Text.cells part % 8) % 8) ' '
  let parts := Text.split ['\t'] line
  parts.dropLast.flatMap expandedPart ++ parts.getLast?.getD []

/-- Lines with line feeds between them. -/
def joinedLines : List (List Char) → List Char
  | [] => []
  | [line] => line
  | line :: next :: rest => line ++ '\n' :: joinedLines (next :: rest)

/-- Taking a text apart at line ends and tabs leaves out a style which applies
to nothing but line ends. -/
def isLeftOut (text : List Char) (span : Markup.Span) : Bool :=
  (text.contains '\n' || text.contains '\t') && span.text.all (· = '\n')

/-- A style which is looked at holds a number that cannot be read. -/
def hasUnreadableSpan (text : List Char) (spans : List Markup.Span) : Bool :=
  spans.any fun span =>
    !isLeftOut text span && hasUnreadableNumber span.style

/-- The lines of a message as a plain console shows them. -/
def messageLines (message : String) : Except MarkupFault (List (List Char)) :=
  match Markup.Progress.addAll {} (Markup.pieces message.toList) with
  | .error fault => .error fault
  | .ok progress =>
      let text := progress.reversed.reverse
      if hasUnreadableSpan text progress.allSpans then
        .error .unreadableNumber
      else .ok ((Text.split ['\n'] text).map expandedLine)

def messageText (message : String) : Except MarkupFault String :=
  (messageLines message).map fun lines => String.ofList (joinedLines lines)

end CompilerCalls.Console
