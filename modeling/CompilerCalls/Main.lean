import CompilerCalls.CommandLine.Plain
import CompilerCalls.CommandLine.Run
import Std.Time.Format

/-!
# The program

The outer layer: it looks at the system, runs the command line, and writes
what the run leaves.  Of the file system it looks only at what the settings
may need: the given file, or the settings files from the current directory
upward.
-/

namespace CompilerCalls

namespace Main

/-- The directory, or the file with its content, at a resolved place. -/
def nodeAt (place : Path) : IO Node := do
  let here := (← IO.currentDir) / place.toString
  if ← here.isDir then return .directory
  return .file (← IO.FS.readBinFile here).toList

/-- Adds what stands on a way from a resolved place to what is known.  A name
which leads elsewhere is known as a link to the resolved place. -/
def observe (tree : FileTree) (place : Path) : List String → IO FileTree
  | [] => return tree.insert place.names (← nodeAt place)
  | name :: rest => do
      if name = ".." then observe tree place.parent rest
      else
        let next := place.join (Path.ofString name)
        let there := (← IO.currentDir) / next.toString
        if !(← there.pathExists) then return tree
        let real := Path.ofString (← IO.FS.realPath there).toString
        let tree :=
          if real = next then tree
          else tree.insert next.names (.link real.toString)
        observe tree real rest

/-- The settings file which a command line names. -/
def configOf (frontend : Frontend) (words : List String) : Option Path :=
  match frontend.request words with
  | .ok (.analyze _ _ config? _ _) => config?
  | .ok (.recognize _ config?) => config?
  | _ => none

/-- The current directory and what the settings may need. -/
def lookAround (frontend : Frontend) (words : List String) :
    IO (FileTree × Path) := do
  let current := Path.ofString (← IO.FS.realPath (← IO.currentDir)).toString
  let files := match configOf frontend words with
    | some path => [path.absoluteIn current]
    | none => current.ancestors.map Settings.fileIn
  let known : FileTree := { nodes := [(current.names, .directory)] }
  let tree ← files.foldlM
    (fun tree file => observe tree Path.root file.names) known
  return (tree, current)

/-- The variables of the process which matter to a run. -/
def environment : IO Environment := do
  let names := Environment.includeVariables.map Prod.fst ++ ["CCDB_LOG_LEVEL"]
  let found ← names.filterMapM fun name => do
    return (← IO.getEnv name).map fun value => (name, value)
  return ⟨found⟩

def now : IO String := do
  let stamp ← Std.Time.Timestamp.now
  let time := Std.Time.DateTime.ofTimestampWithZone stamp Std.Time.TimeZone.UTC
  return time.format "uuuu-MM-dd'T'HH:mm:ss.SSSSSS'Z'"

def usageText : String :=
  "Usage: ccdb analyze [--cwd DIR] [-C FILE] [--json] [-v] [--] ARGV...\n" ++
  "       ccdb flags [--json] [--] ARGV...\n" ++
  "       ccdb recognize [-C FILE] PROGRAM\n"

def escapeText (frontend : Frontend) : Escape → String
  | .settings fault => fault.message frontend.decoderText
  | .nulInPath => "embedded null byte"
  | .print (.markup .unmatchedClosing) =>
      "a closing tag does not match any open tag"
  | .print (.markup .malformedAction) =>
      "the parameters of an action are no literals"
  | .print (.markup .unreadableNumber) =>
      "a style holds a number that cannot be read"
  | .print .encoding => "the stream cannot hold a character"
  | .print (.other text) => text
  | .flag fault => fault.message

def leave (frontend : Frontend) : Outcome → IO UInt32
  | .reported report => do
      IO.print report.output
      IO.eprint report.errors
      return UInt32.ofNat report.exitCode
  | .answered exitCode => do
      if exitCode = 0 then IO.print usageText else IO.eprint usageText
      return UInt32.ofNat exitCode
  | .escaped escape => do
      IO.eprintln (escapeText frontend escape)
      return 1

end Main

end CompilerCalls

open CompilerCalls in
def main (words : List String) : IO UInt32 := do
  let frontend := Frontend.plain (← Main.now)
  let (tree, current) ← Main.lookAround frontend words
  if absolute : current.isAbsolute = true then
    Main.leave frontend <| Run.outcome frontend {
      tree
      current
      current_isAbsolute := absolute
      environment := ← Main.environment } words
  else return 1
