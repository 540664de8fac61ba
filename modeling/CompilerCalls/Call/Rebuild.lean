import CompilerCalls.Call.Basic
import CompilerCalls.Call.Purpose

/-!
# Calls which compile one source

For every source of a call there is a call which compiles that source alone:
flags for the linker and for dependencies are left out, so are the other
sources, and `-c` keeps the driver from linking where the whole call linked.
-/

namespace CompilerCalls

namespace Flag

/-- The words of a flag in the call for one source. -/
def keptWords (source : String) (flag : Flag) :
    Except FlagFault (List String) :=
  if Gnu.dropped flag.category then .ok []
  else do
    match ← flag.source? with
    | some other => return if other = source then flag.tokens else []
    | none => return flag.tokens

end Flag

namespace Flags

/-- The kept words of all flags in the call for one source. -/
def keptWords (source : String) : List Flag → Except FlagFault (List String)
  | [] => .ok []
  | flag :: rest => do
      let kept ← flag.keptWords source
      let later ← keptWords source rest
      return kept ++ later

/-- The word which keeps the driver from linking, unless it is there. -/
def linkGuard (flags : List Flag) : List String :=
  if flags.any (·.category == .noLinking) then [] else ["-c"]

/-- The words of the call for one source. -/
def wordsFor (source : String) (flags : List Flag) :
    Except FlagFault (List String) := do
  let kept ← keptWords source flags
  return linkGuard flags ++ kept

end Flags

/-- What is noticed while a call is taken apart. -/
inductive LogEvent where
  | recognized (program : Path)
  | noCompilation
  | noSources
  deriving DecidableEq

def LogEvent.text : LogEvent → String
  | .recognized _ => "recognized as GNU compiler"
  | .noCompilation => "compiler call does not run compilation pass"
  | .noSources => "source files not found for compilation"

/-- The entries of a call, and what was noticed on the way to them. -/
structure Analysis where
  events : List LogEvent
  entries : List Entry

namespace Call

def flags (call : Call) : List Flag := Grammar.gnu.parse call.arguments

/-- The entry for one source of a call with the given flags. -/
def entryFor (call : Call) (flags : List Flag) (source : String) :
    Except FlagFault Entry := do
  let output? ← Flags.output? flags
  let words ← Flags.wordsFor source flags
  return {
    file := (Path.ofString source).absoluteIn call.directory
    directory := call.directory
    output := output?.map fun output =>
      (Path.ofString output).absoluteIn call.directory
    words := call.program.toString :: words ++ call.environment.includeFlags }

/-- The entries for a list of sources. -/
def entriesFor (call : Call) (flags : List Flag) :
    List String → Except FlagFault (List Entry)
  | [] => .ok []
  | source :: rest => do
      let entry ← call.entryFor flags source
      let later ← call.entriesFor flags rest
      return entry :: later

/-- A call which is known to be one of a compiler driver, taken apart. -/
def analysis (call : Call) : Except FlagFault Analysis := do
  let flags := call.flags
  let recognized := LogEvent.recognized call.program
  if ← Flags.runCompilation flags then
    match ← Flags.sources flags with
    | [] => return ⟨[recognized, .noSources], []⟩
    | sources => return ⟨[recognized], ← call.entriesFor flags sources⟩
  else return ⟨[recognized, .noCompilation], []⟩

/-- One entry for each source of the call. -/
def entries (call : Call) : Except FlagFault (List Entry) :=
  call.analysis.map Analysis.entries

end Call

end CompilerCalls
