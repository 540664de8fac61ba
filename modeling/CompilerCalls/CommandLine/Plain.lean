import CompilerCalls.CommandLine.Frontend
import CompilerCalls.CommandLine.Options
import CompilerCalls.Console.Plain
import CompilerCalls.Report.LogLine

/-!
# A plain frontend

One frontend: it reads options, prints on plain consoles, writes the time on
log lines, and does not tell apart what is malformed in a document.
-/

namespace CompilerCalls.Frontend

/-- The frontend of a moment, which is given by a text. -/
def plain (time : String) : Frontend where
  request := Request.ofWords
  output := Console.plain
  errors := Console.plain
  logLine := LogEvent.line time
  decoderText _ := "<toml>"

end CompilerCalls.Frontend
