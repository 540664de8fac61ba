import CompilerCalls.Toml.Draft
import CompilerCalls.Toml.Number
import CompilerCalls.Toml.Quotation

/-!
# Reading settings documents

A document is a list of statements, at most one on a line.  The functions here
read from the front of a text and leave the rest; the number which some of
them take bounds how often they call each other, and is greater than any
document needs.
-/

namespace CompilerCalls.Toml

def isKeyChar (character : Char) : Bool :=
  character.isAlphanum || character = '-' || character = '_'

def keyName? (text : List Char) : Option (String × List Char) :=
  match text.takeWhile isKeyChar with
  | [] => lineQuotation? text
  | characters => some (String.ofList characters, text.dropWhile isKeyChar)

/-- The names of a key, with points between them, and what follows the blanks
behind them. -/
def key? : Nat → List Char → Option (Key × List Char)
  | 0, _ => none
  | fuel + 1, text =>
      match keyName? text with
      | none => none
      | some (name, rest) =>
          match rest.dropWhile isBlank with
          | '.' :: later =>
              (key? fuel (later.dropWhile isBlank)).map fun read =>
                (name :: read.1, read.2)
          | rest => some ([name], rest)

/-- What follows a comment, which ends before the end of its line. -/
def afterComment? : List Char → Option (List Char)
  | [] => some []
  | '\n' :: rest => some ('\n' :: rest)
  | character :: rest =>
      if isControl character then none else afterComment? rest

/-- What follows a comment, if one stands here. -/
def withoutComment? : List Char → Option (List Char)
  | '#' :: rest => afterComment? rest
  | text => some text

/-- What follows the space, the lines, and the comments between two items of
an array. -/
def betweenItems? (inComment : Bool) : List Char → Option (List Char)
  | [] => some []
  | character :: rest =>
      if character = '\n' then betweenItems? false rest
      else if inComment then
        if isControl character then none else betweenItems? true rest
      else if isBlank character then betweenItems? false rest
      else if character = '#' then betweenItems? true rest
      else some (character :: rest)

/-- A value which no other sign announces: a date, a time, or a number. -/
def readPlain (text : List Char) : Except ReadFault (Value × List Char) :=
  match moment? text with
  | some (some moment, rest) => .ok (.moment moment, rest)
  | some (none, _) => .error .malformed
  | none => readNumber text

mutual

def readValue : Nat → Nat → List Char → Except ReadFault (Value × List Char)
  | 0, _, _ => .error .malformed
  | _, 0, _ => .error .tooDeep
  | fuel + 1, depth + 1, text =>
      match text with
      | '"' :: _ | '\'' :: _ =>
          match quotation? text with
          | none => .error .malformed
          | some (content, rest) => .ok (.text content, rest)
      | 't' :: 'r' :: 'u' :: 'e' :: rest => .ok (.boolean true, rest)
      | 'f' :: 'a' :: 'l' :: 's' :: 'e' :: rest => .ok (.boolean false, rest)
      | '[' :: rest => readItems fuel (depth - 1) [] rest
      | '\x7b' :: rest =>
          match rest.dropWhile isBlank with
          | '\x7d' :: rest => .ok (.table [], rest)
          | rest => readFields fuel (depth - 2) {} rest
      | _ => readPlain text

/-- An array behind some of its items, of which the last is given first, from a
place where the array may end. -/
def readItems :
    Nat → Nat → List Value → List Char → Except ReadFault (Value × List Char)
  | 0, _, _, _ => .error .malformed
  | fuel + 1, depth, items, text =>
      match betweenItems? false text with
      | none => .error .malformed
      | some (']' :: rest) => .ok (.array items.reverse, rest)
      | some text =>
          match readValue fuel depth text with
          | .error fault => .error fault
          | .ok (item, rest) =>
              match betweenItems? false rest with
              | some (']' :: rest) => .ok (.array (item :: items).reverse, rest)
              | some (',' :: rest) => readItems fuel depth (item :: items) rest
              | _ => .error .malformed

/-- A table in one line, behind some of its fields. -/
def readFields :
    Nat → Nat → LineDraft → List Char → Except ReadFault (Value × List Char)
  | 0, _, _, _ => .error .malformed
  | fuel + 1, depth, draft, text =>
      match readPair fuel depth text with
      | .error fault => .error fault
      | .ok ((key, value), rest) =>
          match draft.add key value with
          | none => .error .malformed
          | some draft =>
              match rest.dropWhile isBlank with
              | '\x7d' :: rest => .ok (.table draft.table, rest)
              | ',' :: rest =>
                  readFields fuel depth draft (rest.dropWhile isBlank)
              | _ => .error .malformed

def readPair :
    Nat → Nat → List Char → Except ReadFault ((Key × Value) × List Char)
  | 0, _, _ => .error .malformed
  | fuel + 1, depth, text =>
      match key? (text.length + 1) text with
      | some (key, '=' :: rest) =>
          match readValue fuel depth (rest.dropWhile isBlank) with
          | .error fault => .error fault
          | .ok (value, rest) => .ok ((key, value), rest)
      | _ => .error .malformed

end

/-- The header in a line, behind its opening bracket. -/
def header? (text : List Char) : Option (Statement × List Char) :=
  match text with
  | '[' :: rest =>
      match key? (rest.length + 1) (rest.dropWhile isBlank) with
      | some (key, ']' :: ']' :: rest) => some (.item key, rest)
      | _ => none
  | _ =>
      match key? (text.length + 1) (text.dropWhile isBlank) with
      | some (key, ']' :: rest) => some (.table key, rest)
      | _ => none

def readStatement (fuel : Nat) (text : List Char) :
    Except ReadFault (Option Statement × List Char) :=
  match text with
  | [] => .ok (none, [])
  | '\n' :: _ | '#' :: _ => .ok (none, text)
  | '[' :: rest =>
      match header? rest with
      | none => .error .malformed
      | some (header, rest) => .ok (some header, rest)
  | _ =>
      match readPair fuel nestingLimit text with
      | .error fault => .error fault
      | .ok ((key, value), rest) => .ok (some (.pair key value), rest)

/-- The document after the statement of one line, and the rest of the line. -/
def readLine (fuel : Nat) (draft : Draft) (text : List Char) :
    Except ReadFault (Draft × List Char) :=
  match readStatement fuel (text.dropWhile isBlank) with
  | .error fault => .error fault
  | .ok (none, rest) => .ok (draft, rest)
  | .ok (some statement, rest) =>
      match draft.add statement with
      | none => .error .malformed
      | some draft => .ok (draft, rest)

def readLines : Nat → Draft → List Char → Except ReadFault Draft
  | 0, _, _ => .error .malformed
  | fuel + 1, draft, text =>
      match readLine fuel draft text with
      | .error fault => .error fault
      | .ok (draft, rest) =>
          match withoutComment? (rest.dropWhile isBlank) with
          | some [] => .ok draft
          | some ('\n' :: rest) => readLines fuel draft rest
          | _ => .error .malformed

/-- A text in which every line ends in a line feed alone. -/
def withPlainLines : List Char → List Char
  | [] => []
  | [character] => [character]
  | first :: second :: rest =>
      if first = '\r' ∧ second = '\n' then '\n' :: withPlainLines rest
      else first :: withPlainLines (second :: rest)

/-- The table of a document, unless the document is faulty.  Of several faults
the first one counts. -/
def read (document : String) : Except ReadFault Table :=
  let text := withPlainLines document.toList
  (readLines (2 * text.length + 4) {} text).map Draft.root

end CompilerCalls.Toml
