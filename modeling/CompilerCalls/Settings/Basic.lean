import CompilerCalls.Recognizer
import CompilerCalls.Settings.Search
import CompilerCalls.Text.Utf8
import CompilerCalls.Toml.Reader

/-!
# Settings

A settings file lists programs which are recognized as compiler drivers
whatever their names say, and programs which never are.  Relative paths are
meant from the directory in which the file stands once links are resolved.
-/

namespace CompilerCalls

/-- The lists of a settings file, as absolute paths in the order of the
file. -/
structure Settings where
  recognize : List Path := []
  exclude : List Path := []

inductive SettingsFault where
  | missing (path : Path)
  | directory (path : Path)
  /-- What is there may not be read. -/
  | denied (path : Path)
  /-- What is there cannot be opened. -/
  | special (path : Path)
  | search (fault : SearchFault)
  | notUtf8 (fault : Text.Utf8Fault)
  | notToml (path : Path) (document : String)
  /-- A whole number in the document has this number of digits. -/
  | integerTooLong (digits : Nat)
  | documentTooDeep
  | compilersNotTable (path : Path)
  /-- The value of a key is another one, which is shown. -/
  | notTextList (key shown : String)
  /-- The value of a key is another one, which cannot be shown. -/
  | unwritable (fault : Toml.WriteFault)

namespace SettingsFault

/-- The text of a fault, given the words in which a decoder says what is
malformed in a document. -/
def message (decoderText : String → String) : SettingsFault → String
  | .missing path => "Config not found: " ++ path.toString
  | .directory path =>
      "[Errno 21] Is a directory: " ++ Text.quoted path.toString
  | .denied path =>
      "[Errno 13] Permission denied: " ++ Text.quoted path.toString
  | .special path =>
      "[Errno 6] No such device or address: " ++ Text.quoted path.toString
  | .search fault => fault.message
  | .notUtf8 fault => fault.message
  | .notToml path document => path.toString ++ ": " ++ decoderText document
  | .integerTooLong digits =>
      "Exceeds the limit (4300 digits) for integer string conversion: " ++
        "value has " ++ digits.repr ++ " digits; " ++
        "use sys.set_int_max_str_digits() to increase the limit"
  | .documentTooDeep => "maximum recursion depth exceeded"
  | .compilersNotTable path =>
      path.toString ++ ": [compilers] must be a table"
  | .notTextList key shown =>
      "[compilers] " ++ key ++ " must be a list of strings, got " ++ shown
  | .unwritable .integerTooLong =>
      "Exceeds the limit (4300 digits) for integer string conversion; " ++
        "use sys.set_int_max_str_digits() to increase the limit"
  | .unwritable .tooDeep =>
      "maximum recursion depth exceeded while getting the repr of an object"

/-- Commands report the fault.  The others are faults of the system, or of the
limits within which documents are read. -/
def isReported : SettingsFault → Bool
  | .directory _ | .denied _ | .special _ | .search _ | .documentTooDeep
  | .unwritable .tooDeep => false
  | _ => true

def ofReadFault (path : Path) (document : String) :
    Toml.ReadFault → SettingsFault
  | .malformed => .notToml path document
  | .integerTooLong digits => .integerTooLong digits
  | .tooDeep => .documentTooDeep

/-- The fault that a key has a value which is no list of texts. -/
def ofValue (key : String) (value : Toml.Value) : SettingsFault :=
  match value.written with
  | .ok shown => .notTextList key shown
  | .error fault => .unwritable fault

end SettingsFault

namespace Settings

def recognizer (settings : Settings) : Recognizer :=
  ⟨settings.recognize, settings.exclude⟩

/-- A listed path, from the directory of the settings file. -/
def listedPath (directory : Path) (written : String) : Path :=
  directory.join (Path.ofString written)

/-- The texts of a value which is an array of texts. -/
def textItems? : List Toml.Value → Option (List String)
  | [] => some []
  | .text content :: rest => (textItems? rest).map (content :: ·)
  | _ :: _ => none

/-- The paths under a key.  A key which is not there lists none. -/
def pathsOf (directory : Path) (compilers : Toml.Table) (key : String) :
    Except SettingsFault (List Path) :=
  match compilers.value? key with
  | none => .ok []
  | some (.array items) =>
      match textItems? items with
      | some texts => .ok (texts.map (listedPath directory))
      | none => .error (.ofValue key (.array items))
  | some value => .error (.ofValue key value)

/-- The settings in the table of the document at a path.  Keys which are not
known are passed over. -/
def ofTable (path directory : Path) (table : Toml.Table) :
    Except SettingsFault Settings :=
  match table.value? "compilers" with
  | none => .ok {}
  | some (.table compilers) => do
      let recognize ← pathsOf directory compilers "recognize"
      let exclude ← pathsOf directory compilers "exclude"
      return ⟨recognize, exclude⟩
  | some _ => .error (.compilersNotTable path)

def tableOf (path : Path) (content : List UInt8) :
    Except SettingsFault Toml.Table :=
  match Text.decodeUtf8 content with
  | .error fault => .error (.notUtf8 fault)
  | .ok document =>
      (Toml.read document).mapError (SettingsFault.ofReadFault path document)

def loadFrom (tree : FileTree) (current path : Path) :
    Except SettingsFault Settings :=
  match tree.reach current path with
  | .error fault =>
      match SearchFault.ofLookup? path fault with
      | some fault => .error (.search fault)
      | none => .error (.missing path)
  | .ok place =>
      if !tree.mayRead place.names then .error (.denied path)
      else
        match tree.node? place.names with
        | some (.file content) => do
            let table ← tableOf path content
            match tree.resolve current path with
            | .error fault => .error (.search (.unresolved fault))
            | .ok file => ofTable path file.parent table
        | some .special => .error (.special path)
        | _ => .error (.directory path)

/-- The settings in a given file, or in the nearest one from the current
directory upward.  Without any file there are no lists. -/
def load (tree : FileTree) (current : Path) (path? : Option Path) :
    Except SettingsFault Settings :=
  match path? with
  | some path => loadFrom tree current path
  | none =>
      match find? tree current current with
      | .error fault => .error (.search fault)
      | .ok none => .ok {}
      | .ok (some path) => loadFrom tree current path

end Settings

end CompilerCalls
