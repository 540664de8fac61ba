import CompilerCalls.Text.Hex

/-!
# Quoted texts in settings documents

There are four kinds: with double quotes, in which backslashes introduce
escapes, and with single quotes, in which they do not; and both with three
quotes on either side, which may go over several lines.  Each function takes
what follows the opening quotes and leaves what follows the closing ones.
-/

namespace CompilerCalls.Toml

def isBlank (character : Char) : Bool := character = ' ' || character = '\t'

def isSpace (character : Char) : Bool := isBlank character || character = '\n'

/-- A control character which may not stand in a line. -/
def isControl (character : Char) : Bool :=
  (character.toNat < 0x20 || character.toNat = 0x7f) && character != '\t'

def hexNumber? : Nat → List Char → Option Nat
  | value, [] => some value
  | value, digit :: rest =>
      match Text.hexValue? digit with
      | none => none
      | some next => hexNumber? (16 * value + next) rest

/-- A character given by a fixed number of digits. -/
def scalar? (width : Nat) (text : List Char) : Option (Char × List Char) :=
  let digits := text.take width
  if digits.length < width then none
  else
    match hexNumber? 0 digits with
    | none => none
    | some value =>
        if value.isValidChar then some (Char.ofNat value, text.drop width)
        else none

/-- The character which is meant by what follows a backslash. -/
def escaped? : List Char → Option (Char × List Char)
  | 'b' :: rest => some ('\x08', rest)
  | 't' :: rest => some ('\t', rest)
  | 'n' :: rest => some ('\n', rest)
  | 'f' :: rest => some ('\x0c', rest)
  | 'r' :: rest => some ('\r', rest)
  | '"' :: rest => some ('"', rest)
  | '\\' :: rest => some ('\\', rest)
  | 'u' :: rest => scalar? 4 rest
  | 'U' :: rest => scalar? 8 rest
  | _ => none

def prepend (characters : List Char) (read : List Char × List Char) :
    List Char × List Char :=
  (characters ++ read.1, read.2)

def escapedLine? : Nat → List Char → Option (List Char × List Char)
  | 0, _ => none
  | _, [] => none
  | fuel + 1, character :: rest =>
      if character = '"' then some ([], rest)
      else if character = '\\' then
        match escaped? rest with
        | none => none
        | some (meant, rest) => (escapedLine? fuel rest).map (prepend [meant])
      else if isControl character then none
      else (escapedLine? fuel rest).map (prepend [character])

def literalLine? : List Char → Option (List Char × List Char)
  | [] => none
  | character :: rest =>
      if character = '\'' then some ([], rest)
      else if isControl character then none
      else (literalLine? rest).map (prepend [character])

/-- Up to two quotes which stand behind three closing ones are a part of the
text. -/
def closingQuotes (quote : Char) : List Char → List Char × List Char
  | [] => ([], [])
  | [first] => if first = quote then ([quote], []) else ([], [first])
  | first :: second :: rest =>
      if first ≠ quote then ([], first :: second :: rest)
      else if second ≠ quote then ([quote], second :: rest)
      else ([quote, quote], rest)

/-- A text between three double quotes.  A backslash at the end of a line
joins it with the next text, whatever space and lines lie between. -/
def escapedLines? : Nat → List Char → Option (List Char × List Char)
  | 0, _ => none
  | _, [] => none
  | _, '"' :: '"' :: '"' :: rest => some (closingQuotes '"' rest)
  | fuel + 1, '\\' :: rest =>
      match rest.dropWhile isBlank with
      | '\n' :: later => escapedLines? fuel (later.dropWhile isSpace)
      | _ =>
          match escaped? rest with
          | none => none
          | some (meant, rest) =>
              (escapedLines? fuel rest).map (prepend [meant])
  | fuel + 1, character :: rest =>
      if isControl character && character != '\n' then none
      else (escapedLines? fuel rest).map (prepend [character])

def literalLines? : List Char → Option (List Char × List Char)
  | [] => none
  | '\'' :: '\'' :: '\'' :: rest => some (closingQuotes '\'' rest)
  | character :: rest =>
      if isControl character && character != '\n' then none
      else (literalLines? rest).map (prepend [character])

/-- The end of a line directly behind three opening quotes says nothing. -/
def withoutFirstBreak : List Char → List Char
  | '\n' :: rest => rest
  | text => text

/-- A text of any kind, with its opening quotes. -/
def quotation? (text : List Char) : Option (String × List Char) :=
  let read? :=
    match text with
    | '"' :: '"' :: '"' :: rest =>
        escapedLines? (rest.length + 1) (withoutFirstBreak rest)
    | '\'' :: '\'' :: '\'' :: rest => literalLines? (withoutFirstBreak rest)
    | '"' :: rest => escapedLine? (rest.length + 1) rest
    | '\'' :: rest => literalLine? rest
    | _ => none
  read?.map fun read => (String.ofList read.1, read.2)

def lineQuotation? (text : List Char) : Option (String × List Char) :=
  let read? :=
    match text with
    | '"' :: rest => escapedLine? (rest.length + 1) rest
    | '\'' :: rest => literalLine? rest
    | _ => none
  read?.map fun read => (String.ofList read.1, read.2)

end CompilerCalls.Toml
