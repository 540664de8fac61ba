import CompilerCalls.Call.Basic
import CompilerCalls.Flag.Reading
import CompilerCalls.Text.Hex

/-!
# JSON reports

Reports for other programs are JSON documents, indented by two spaces for
each level and written in ASCII alone.
-/

namespace CompilerCalls

inductive Json where
  | text (content : String)
  | array (items : List Json)
  | object (fields : List (String × Json))

namespace Json

/-- A code unit of UTF-16 as an escape. -/
def escapedUnit (unit : Nat) : List Char := '\\' :: 'u' :: Text.hexDigits 4 unit

/-- A character between the quotes of a text.  A character beyond the first
plane is written as two code units. -/
def escapedChar (character : Char) : List Char :=
  if character = '"' then ['\\', '"']
  else if character = '\\' then ['\\', '\\']
  else if character = '\n' then ['\\', 'n']
  else if character = '\r' then ['\\', 'r']
  else if character = '\t' then ['\\', 't']
  else if character = '\x0c' then ['\\', 'f']
  else if character = '\x08' then ['\\', 'b']
  else if 0x20 ≤ character.toNat ∧ character.toNat ≤ 0x7e then [character]
  else if character.toNat ≤ 0xffff then escapedUnit character.toNat
  else
    let offset := character.toNat - 0x10000
    escapedUnit (0xd800 + offset / 0x400) ++
      escapedUnit (0xdc00 + offset % 0x400)

def writtenText (content : String) : List Char :=
  '"' :: content.toList.flatMap escapedChar ++ ['"']

/-- The end of a line, and the blanks in front of the next one. -/
def lineBreak (depth : Nat) : List Char :=
  '\n' :: List.replicate (2 * depth) ' '

mutual

/-- A document inside of `depth` others. -/
def writtenAt (depth : Nat) : Json → List Char
  | .text content => writtenText content
  | .array [] => ['[', ']']
  | .array (item :: rest) =>
      '[' :: lineBreak (depth + 1) ++ writtenAt (depth + 1) item ++
        writtenItems (depth + 1) rest ++ lineBreak depth ++ [']']
  | .object [] => ['\x7b', '\x7d']
  | .object ((name, value) :: rest) =>
      '\x7b' :: lineBreak (depth + 1) ++ writtenText name ++ [':', ' '] ++
        writtenAt (depth + 1) value ++ writtenFields (depth + 1) rest ++
        lineBreak depth ++ ['\x7d']

/-- The items of an array behind its first one. -/
def writtenItems (depth : Nat) : List Json → List Char
  | [] => []
  | item :: rest =>
      ',' :: lineBreak depth ++ writtenAt depth item ++ writtenItems depth rest

/-- The fields of an object behind its first one. -/
def writtenFields (depth : Nat) : List (String × Json) → List Char
  | [] => []
  | (name, value) :: rest =>
      ',' :: lineBreak depth ++ writtenText name ++ [':', ' '] ++
        writtenAt depth value ++ writtenFields depth rest

end

def written (document : Json) : String := String.ofList (writtenAt 0 document)

def texts (contents : List String) : Json := .array (contents.map .text)

end Json

def Flag.toJson (flag : Flag) : Json :=
  .object [("category", .text flag.category.id),
    ("arguments", .texts flag.tokens)]

/-- The report on an entry.  An entry without an output does not mention
one. -/
def Entry.toJson (entry : Entry) : Json :=
  .object <|
    [("file", Json.text entry.file.toString),
      ("directory", Json.text entry.directory.toString),
      ("arguments", Json.texts entry.words)] ++
    match entry.output with
    | none => []
    | some output => [("output", Json.text output.toString)]

end CompilerCalls
