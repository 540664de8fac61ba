import CompilerCalls.CommandLine.Frontend
import CompilerCalls.CommandLine.LogLevel
import CompilerCalls.Report.Json
import CompilerCalls.Settings.Basic

/-!
# Runs of the program

A run answers one command line, given a frontend and what it can see of the
system.  The answer is an exit code with two texts, or a fault which no command
reports.
-/

namespace CompilerCalls

/-- What a run can see of the system. -/
structure Surroundings where
  tree : FileTree
  /-- The current directory, which exists, with all links resolved. -/
  current : Path
  current_isAbsolute : current.isAbsolute = true
  environment : Environment := {}

/-- What a run which ends in order leaves. -/
structure Report where
  exitCode : Nat
  output : String := ""
  errors : String := ""
  deriving DecidableEq, Repr

/-- A fault which no command reports. -/
inductive Escape where
  /-- The settings cannot be loaded, for a reason which is not reported. -/
  | settings (fault : SettingsFault)
  | nulInPath
  | print (fault : PrintFault)
  | flag (fault : FlagFault)

inductive Outcome where
  | reported (report : Report)
  /-- The reader of the command line has answered it. -/
  | answered (exitCode : Nat)
  | escaped (escape : Escape)

namespace Run

structure FaultStyle where
  json : Bool := false
  exitCode : Nat := 1

/-- A console prints, and its fault escapes. -/
def printed (console : Console) (print : Print) : Except Escape String :=
  (console print).mapError .print

/-- The line for a message, behind a label in its style. -/
def faultLine (message : String) : Print :=
  .line ("[red bold]error:[/red bold] " ++ message)

/-- The report on a fault: a document among the output, or a line among the
errors. -/
def faultReport (frontend : Frontend) (style : FaultStyle) (message : String) :
    Except Escape Report :=
  if style.json then
    .ok {
      exitCode := style.exitCode
      output := (Json.object [("error", .text message)]).written ++ "\n" }
  else
    (printed frontend.errors (faultLine message)).map fun errors =>
      { exitCode := style.exitCode, errors }

def noCallMessage : String := "no compiler command given (pass it after '--')"

/-- The settings, or the report on the fault which keeps them from being
loaded. -/
def settings (frontend : Frontend) (surroundings : Surroundings)
    (style : FaultStyle) (config? : Option Path) :
    Except Escape (Except Report Settings) :=
  match Settings.load surroundings.tree surroundings.current config? with
  | .ok settings => .ok (.ok settings)
  | .error fault =>
      if fault.isReported then
        (faultReport frontend style (fault.message frontend.decoderText)).map
          .error
      else .error (.settings fault)

/-- The call on a command line, as it runs in a directory which may be given
relative to the current one. -/
def callIn (surroundings : Surroundings) (first : String) (rest : List String)
    (directory? : Option Path) : Call :=
  Call.launched first rest
    ((directory?.getD surroundings.current).absoluteIn surroundings.current)
    (Path.isAbsolute_absoluteIn _ surroundings.current_isAbsolute)
    surroundings.environment none

def logText (frontend : Frontend) (surroundings : Surroundings)
    (verbose : Bool) (events : List LogEvent) : String :=
  let level := LogLevel.chosen verbose
    (surroundings.environment.value? "CCDB_LOG_LEVEL")
  if level = .debug then String.join (events.map frontend.logLine) else ""

/-- The texts in the table of entries for one entry. -/
def entryCells (entry : Entry) : List String :=
  [entry.file.toString, (entry.output.map Path.toString).getD "",
    Text.join " " entry.words]

def flagCells (flag : Flag) : List String :=
  [flag.category.label, Text.join " " flag.tokens]

/-- What is printed for entries. -/
def entriesPrint (entries : List Entry) : Print :=
  if entries.isEmpty then .line "[dim]No compilation entries.[/dim]"
  else
    .table {
        headingStyle := "bold"
        borderStyle? := some "dim"
        isBoxed := true
        paddingLines := 0
        paddingColumns := 1 }
      ["File", "Output", "Arguments"] (entries.map entryCells)

def flagsPrint (flags : List Flag) : Print :=
  .table {
      headingStyle := "bold"
      borderStyle? := none
      isBoxed := false
      paddingLines := 0
      paddingColumns := 2 }
    ["Category", "Arguments"] (flags.map flagCells)

def entriesText (console : Console) (json : Bool) (entries : List Entry) :
    Except Escape String :=
  if json then .ok ((Json.array (entries.map Entry.toJson)).written ++ "\n")
  else printed console (entriesPrint entries)

def flagsText (console : Console) (json : Bool) (flags : List Flag) :
    Except Escape String :=
  if json then .ok ((Json.array (flags.map Flag.toJson)).written ++ "\n")
  else printed console (flagsPrint flags)

/-- The report on the entries of a call, once the settings are known. -/
def entriesReport (frontend : Frontend) (surroundings : Surroundings)
    (settings : Settings) (call : Call) (json verbose : Bool) :
    Except Escape Report :=
  if settings.recognizer.recognizes call.program then
    match call.analysis with
    | .error fault => .error (.flag fault)
    | .ok analysis =>
        (entriesText frontend.output json analysis.entries).map fun output =>
          { exitCode := 0
            output
            errors := logText frontend surroundings verbose analysis.events }
  else
    (entriesText frontend.output json []).map fun output =>
      { exitCode := 0, output }

/-- The answer to a request for entries.  The call is looked at before the
settings are. -/
def analyze (frontend : Frontend) (surroundings : Surroundings)
    (words : List String) (directory? config? : Option Path)
    (json verbose : Bool) : Except Escape Report :=
  match words with
  | [] => faultReport frontend { json } noCallMessage
  | first :: rest =>
      match settings frontend surroundings { json } config? with
      | .error escape => .error escape
      | .ok (.error report) => .ok report
      | .ok (.ok settings) =>
          entriesReport frontend surroundings settings
            (callIn surroundings first rest directory?) json verbose

def flags (frontend : Frontend) (surroundings : Surroundings)
    (words : List String) (json : Bool) : Except Escape Report :=
  match words with
  | [] => faultReport frontend { json } noCallMessage
  | first :: rest =>
      let call := callIn surroundings first rest none
      (flagsText frontend.output json call.flags).map fun output =>
        { exitCode := 0, output }

/-- What is printed about a program. -/
def verdictPrint (settings : Settings) (program : Path) : Print :=
  .line (program.toString ++
    if settings.recognizer.recognizes program then ": GNU compiler"
    else ": not a GNU compiler")

def recognize (frontend : Frontend) (surroundings : Surroundings)
    (program : Path) (config? : Option Path) : Except Escape Report :=
  match settings frontend surroundings { exitCode := 2 } config? with
  | .error escape => .error escape
  | .ok (.error report) => .ok report
  | .ok (.ok settings) =>
      (printed frontend.output (verdictPrint settings program)).map fun output =>
        { exitCode := if settings.recognizer.recognizes program then 0 else 1
          output }

def answer (frontend : Frontend) (surroundings : Surroundings) :
    Request → Except Escape Report
  | .analyze words directory? config? json verbose =>
      analyze frontend surroundings words directory? config? json verbose
  | .flags words json => flags frontend surroundings words json
  | .recognize program config? =>
      recognize frontend surroundings program config?

def outcome (frontend : Frontend) (surroundings : Surroundings)
    (words : List String) : Outcome :=
  match frontend.request words with
  | .error (.answered exitCode) => .answered exitCode
  | .error .nulInPath => .escaped .nulInPath
  | .ok request =>
      match answer frontend surroundings request with
      | .ok report => .reported report
      | .error escape => .escaped escape

end Run

end CompilerCalls
