import CompilerCalls.Flag.Gnu

/-!
# What the flags of a call ask for

Whether a call compiles, which sources it names, and where its output goes.
Flags which were read from words always have a word; for others the missing
word is a fault as soon as it is needed.
-/

namespace CompilerCalls

inductive FlagFault where
  | noWords
  deriving DecidableEq, Repr

def FlagFault.message : FlagFault → String
  | .noWords => "tuple index out of range"

namespace Flag

def first (flag : Flag) : Except FlagFault String :=
  match flag.tokens with
  | [] => .error .noWords
  | token :: _ => .ok token

/-- The last word of a flag: its value, if that is a word of its own. -/
def value (flag : Flag) : Except FlagFault String :=
  match flag.tokens.getLast? with
  | none => .error .noWords
  | some token => .ok token

/-- The source which a flag names, as it is written. -/
def source? (flag : Flag) : Except FlagFault (Option String) :=
  if flag.category = .source then
    match flag.first with
    | .error fault => .error fault
    | .ok source => .ok (some source)
  else .ok none

/-- The value of a flag for the output path.  Two characters of spelling stand
before a value which is part of the word. -/
def outputValue (flag : Flag) : Except FlagFault String :=
  match flag.tokens with
  | [glued] => .ok (String.ofList (glued.toList.drop 2))
  | _ => flag.value

end Flag

namespace Flags

/-- No flag asks a question, and none asks for dependencies alone.  Flags
behind the one which decides are not looked at. -/
def noneStops : List Flag → Except FlagFault Bool
  | [] => .ok true
  | flag :: rest =>
      if flag.category = .query then .ok false
      else if flag.category = .dependencies then
        match flag.first with
        | .error fault => .error fault
        | .ok word =>
            if Gnu.stopWords.contains word then .ok false else noneStops rest
      else noneStops rest

/-- The call runs a compilation pass.  A call without flags does not. -/
def runCompilation (flags : List Flag) : Except FlagFault Bool :=
  if flags.isEmpty then .ok false else noneStops flags

/-- The sources which the flags name, in order. -/
def sources : List Flag → Except FlagFault (List String)
  | [] => .ok []
  | flag :: rest => do
      let source? ← flag.source?
      let later ← sources rest
      return source?.toList ++ later

/-- The value of the first flag for the output path. -/
def output? : List Flag → Except FlagFault (Option String)
  | [] => .ok none
  | flag :: rest =>
      if flag.category = .outputPath then flag.outputValue.map some
      else output? rest

end Flags

end CompilerCalls
