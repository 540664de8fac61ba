import CompilerCalls.Console.Message
import CompilerCalls.Text.Split

/-!
# Tables on a plain console

Every cell is a message of one or more lines, and a column is as wide as its
widest line, the heading included.
-/

namespace CompilerCalls

namespace Grid

/-- A cell: its lines as they are shown. -/
abbrev Cell := List (List Char)

/-- A text with spaces behind it up to a width. -/
def padded (width : Nat) (line : List Char) : String :=
  String.ofList (line ++ List.replicate (width - Text.cells line) ' ')

def rule (line : Char) (length : Nat) : String :=
  String.ofList (List.replicate length line)

/-- The width of a column, whose heading is one of its cells. -/
def width (cells : List Cell) : Nat :=
  (cells.flatten.map Text.cells).foldl max 0

/-- The line of a row with a given index, from the left edge of the table to
the right one.  A cell with fewer lines is empty there. -/
def rowLine (left between right : String) (widths : List Nat)
    (row : List Cell) (index : Nat) : String :=
  left ++ Text.join between
    (List.zipWith (fun width cell => padded width (cell[index]?.getD []))
      widths row) ++ right ++ "\n"

def rowText (left between right : String) (widths : List Nat)
    (row : List Cell) : String :=
  let height := (row.map List.length).foldl max 1
  String.join ((List.range height).map (rowLine left between right widths row))

def boxedRow (gap edge : String) : List Nat → List Cell → String :=
  rowText (edge ++ gap) (gap ++ edge ++ gap) (gap ++ edge)

def openRow (gap : String) : List Nat → List Cell → String :=
  rowText gap (gap ++ gap) gap

/-- The line above, below, or between rows of a boxed table. -/
def boxedLine (left crossing right : String) (line : Char) (widths : List Nat) :
    String :=
  left ++ Text.join crossing (widths.map (rule line)) ++ right ++ "\n"

/-- A cell with empty lines above and below its own. -/
def paddedCell (lines : Nat) (cell : Cell) : Cell :=
  List.replicate lines [] ++ cell ++ List.replicate lines []

/-- The rows of a table, the one with the headings included. -/
def rowsOf (form : TableForm) (headings : List String)
    (rows : List (List String)) :
    Except Console.MarkupFault (List (List Cell)) :=
  (headings :: rows).mapM fun row => row.mapM fun text =>
    (Console.messageLines text).map (paddedCell form.paddingLines)

def widths (headings : List String) (rows : List (List Cell)) : List Nat :=
  headings.mapIdx fun column _ =>
    width (rows.filterMap fun row => row[column]?)

/-- The rows of a table, of which the first one holds the headings, in a
box. -/
def boxedText (gap : String) (widths : List Nat) (rows : List (List Cell)) :
    String :=
  let spans := widths.map (· + 2 * gap.length)
  boxedLine "┏" "┳" "┓" '━' spans ++
    String.join ((rows.take 1).map (boxedRow gap "┃" widths)) ++
    boxedLine "┡" "╇" "┩" '━' spans ++
    String.join ((rows.drop 1).map (boxedRow gap "│" widths)) ++
    boxedLine "└" "┴" "┘" '─' spans

/-- The text of a table without its styles. -/
def text (form : TableForm) (headings : List String)
    (rows : List (List String)) : Except Console.MarkupFault String :=
  (rowsOf form headings rows).map fun rows =>
    let widths := widths headings rows
    let gap := rule ' ' form.paddingColumns
    if form.isBoxed then boxedText gap widths rows
    else String.join (rows.map (openRow gap widths))

end Grid

end CompilerCalls
