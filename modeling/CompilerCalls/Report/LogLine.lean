import CompilerCalls.Call.Rebuild
import CompilerCalls.Console.Grid
import CompilerCalls.Text.Quoted

/-!
# Log lines

Each event is one line: the time, the level, the text of the event padded to a
fixed width, the part of the program which speaks, and what belongs to the
event.
-/

namespace CompilerCalls

/-- A value on a log line.  A value in which the end could not be seen is
quoted. -/
def logValue (value : String) : String :=
  let unclear := [' ', '\t', '\r', '\n', '=', '"', '\'']
  if value.toList.any unclear.contains then Text.quoted value else value

/-- The line of an event at a time. -/
def LogEvent.line (time : String) (event : LogEvent) : String :=
  let details := match event with
    | .recognized program => " program=" ++ logValue program.toString
    | .noCompilation | .noSources => ""
  time ++ " [debug    ] " ++ Grid.padded 30 event.text.toList ++
    " [ccdb.gcc]" ++ details ++ "\n"

end CompilerCalls
