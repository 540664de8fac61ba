import CompilerCalls.CommandLine.Request

/-!
# Options of a command

A reader of command lines.  The words of a command are options and arguments in
any order, up to the first `--`, behind which every word is an argument.  A
long option has its value behind `=` or in the next word.  Short options may
share a word; the value of one is the rest of that word, or the next word if
nothing is left of it.
-/

namespace CompilerCalls

inductive Setting where
  | cwd
  | config
  | json
  | verbose
  | help
  deriving DecidableEq, Repr

structure OptionForm where
  setting : Setting
  long : String
  short? : Option Char := none
  takesValue : Bool
  deriving Repr

structure SortedWords where
  /-- The options in their order.  A switch has an empty value. -/
  options : List (Setting × String) := []
  arguments : List String := []
  deriving DecidableEq, Repr

namespace SortedWords

def value? (words : SortedWords) (setting : Setting) : Option String :=
  words.options.reverse.lookup setting

def has (words : SortedWords) (setting : Setting) : Bool :=
  (words.value? setting).isSome

end SortedWords

/-- What one word of options says: the options which it completes, and maybe
one which has its value in the next word. -/
abbrev OptionWord := List (Setting × String) × Option Setting

namespace OptionForm

/-- A word whose characters behind the dash are short options. -/
def shortWord? (forms : List OptionForm) : List Char → Option OptionWord
  | [] => some ([], none)
  | character :: rest =>
      match forms.find? fun form => form.short? == some character with
      | none => none
      | some form =>
          if form.takesValue then
            if rest = [] then some ([], some form.setting)
            else some ([(form.setting, String.ofList rest)], none)
          else
            (shortWord? forms rest).map fun read =>
              ((form.setting, "") :: read.1, read.2)

/-- A word which is a long option, maybe with a value behind `=`. -/
def longWord? (form : OptionForm) (value? : Option String) :
    Option OptionWord :=
  match form.takesValue, value? with
  | true, some value => some ([(form.setting, value)], none)
  | true, none => some ([], some form.setting)
  | false, some _ => none
  | false, none => some ([(form.setting, "")], none)

/-- The value behind the first `=` of a word. -/
def gluedValue? (word : List Char) : Option String :=
  match word.dropWhile (· != '=') with
  | [] => none
  | _ :: value => some (String.ofList value)

/-- A word which starts with a dash and is longer than it. -/
def word? (forms : List OptionForm) (word : String) : Option OptionWord :=
  let characters := word.toList
  let name := String.ofList (characters.takeWhile (· != '='))
  match forms.find? fun form => form.long == name with
  | some form => form.longWord? (gluedValue? characters)
  | none =>
      if ['-', '-'].isPrefixOf characters then none
      else shortWord? forms (characters.drop 1)

end OptionForm

namespace SortedWords

def isOption (word : String) : Bool :=
  match word.toList with
  | '-' :: _ :: _ => true
  | _ => false

def withOptions (options : List (Setting × String)) (words : SortedWords) :
    SortedWords :=
  { words with options := options ++ words.options }

def withArgument (argument : String) (words : SortedWords) : SortedWords :=
  { words with arguments := argument :: words.arguments }

/-- The words of a command with the given options, unless an option is not
known, lacks its value, or has one which it does not take. -/
def read? (forms : List OptionForm) : List String → Option SortedWords
  | [] => some {}
  | [word] =>
      if word = "--" then some {}
      else if isOption word then
        match OptionForm.word? forms word with
        | some (options, none) => some { options }
        | _ => none
      else some { arguments := [word] }
  | word :: next :: rest =>
      if word = "--" then some { arguments := next :: rest }
      else if isOption word then
        match OptionForm.word? forms word with
        | none => none
        | some (options, none) =>
            (read? forms (next :: rest)).map (withOptions options)
        | some (options, some setting) =>
            (read? forms rest).map (withOptions (options ++ [(setting, next)]))
      else (read? forms (next :: rest)).map (withArgument word)

end SortedWords

namespace Refusal

def usage : Refusal := .answered 2

def help : Refusal := .answered 0

end Refusal

namespace Request

def cwdForm : OptionForm := ⟨.cwd, "--cwd", none, true⟩

def configForm : OptionForm := ⟨.config, "--config", some 'C', true⟩

def jsonForm : OptionForm := ⟨.json, "--json", none, false⟩

def verboseForm : OptionForm := ⟨.verbose, "--verbose", some 'v', false⟩

/-- The option for help, which every command has. -/
def helpForm : OptionForm := ⟨.help, "--help", none, false⟩

/-- A path as it stands on the command line. -/
def pathOf (written : String) : Except Refusal Path :=
  if written.toList.contains '\x00' then .error .nulInPath
  else .ok (Path.ofString written)

def pathOption (words : SortedWords) (setting : Setting) :
    Except Refusal (Option Path) :=
  match words.value? setting with
  | none => .ok none
  | some written => (pathOf written).map some

/-- The sorted words of a command, unless help is asked for. -/
def sorted (forms : List OptionForm) (words : List String) :
    Except Refusal SortedWords :=
  match SortedWords.read? (helpForm :: forms) words with
  | none => .error Refusal.usage
  | some sorted => if sorted.has .help then .error Refusal.help else .ok sorted

def ofAnalyzeWords (words : List String) : Except Refusal Request := do
  let words ← sorted [cwdForm, configForm, jsonForm, verboseForm] words
  let directory? ← pathOption words .cwd
  let config? ← pathOption words .config
  return .analyze words.arguments directory? config? (words.has .json)
    (words.has .verbose)

def ofFlagsWords (words : List String) : Except Refusal Request := do
  let words ← sorted [jsonForm] words
  return .flags words.arguments (words.has .json)

/-- The request for a verdict on exactly one program. -/
def ofRecognizeWords (words : List String) : Except Refusal Request := do
  let words ← sorted [configForm] words
  let config? ← pathOption words .config
  match words.arguments with
  | [] => .error Refusal.usage
  | program :: surplus => do
      let program ← pathOf program
      if surplus = [] then return .recognize program config?
      else .error Refusal.usage

def ofCommand (command : String) (words : List String) :
    Except Refusal Request :=
  if command = "analyze" then ofAnalyzeWords words
  else if command = "flags" then ofFlagsWords words
  else if command = "recognize" then ofRecognizeWords words
  else if command = "--help" then .error Refusal.help
  else .error Refusal.usage

/-- The request of a command line.  A `--` in front of the command says
nothing. -/
def ofWords : List String → Except Refusal Request
  | [] => .error Refusal.usage
  | "--" :: command :: words => ofCommand command words
  | command :: words => ofCommand command words

end Request

end CompilerCalls
