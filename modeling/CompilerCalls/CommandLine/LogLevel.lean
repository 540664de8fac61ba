/-!
# Log levels

How much is logged is chosen by name.  Names are read whatever the case of
their letters, and a name which is not known stands for warnings.
-/

namespace CompilerCalls

/-- From which importance on something is logged. -/
inductive LogLevel where
  | debug
  | info
  | warning
  | error
  | critical
  /-- No choice; warnings and more are logged. -/
  | notSet
  deriving DecidableEq, Repr

namespace LogLevel

def name : LogLevel → String
  | .debug => "DEBUG"
  | .info => "INFO"
  | .warning => "WARNING"
  | .error => "ERROR"
  | .critical => "CRITICAL"
  | .notSet => "NOTSET"

/-- The upper-case letter of a character.  Besides the letters of ASCII, the
dotless i and the long s have an upper-case letter in ASCII. -/
def upper (character : Char) : Char :=
  if character = 'ı' then 'I'
  else if character = 'ſ' then 'S'
  else character.toUpper

def ofName? (name : String) : Option LogLevel :=
  [("DEBUG", debug), ("INFO", info), ("WARNING", warning), ("WARN", warning),
    ("ERROR", error), ("CRITICAL", critical), ("FATAL", critical),
    ("NOTSET", notSet)].lookup name

def ofName (name : String) : LogLevel :=
  (ofName? (String.ofList (name.toList.map upper))).getD .warning

/-- The level which is asked for: everything is logged on demand, else what
the name in the environment says. -/
def chosen (verbose : Bool) (name? : Option String) : LogLevel :=
  if verbose then .debug else (name?.map ofName).getD .warning

end LogLevel

end CompilerCalls
