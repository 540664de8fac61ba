import CompilerCalls.Call.Rebuild
import CompilerCalls.CommandLine.Request
import CompilerCalls.Console.Print

/-!
# Frontends

What a run leaves to others, as they are set up in its process: its command
line is read into a request, texts and tables are printed on two consoles, what
is noticed is written to a log, and a decoder says what is malformed in a
settings document.
-/

namespace CompilerCalls

structure Frontend where
  request : List String → Except Refusal Request
  /-- The consoles for the output and for errors. -/
  output : Console
  errors : Console
  /-- The line of an event in the log. -/
  logLine : LogEvent → String
  /-- What the decoder says of a malformed document. -/
  decoderText : String → String

end CompilerCalls
