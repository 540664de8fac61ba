import CompilerCalls.Text.Hex

/-!
# Literals

The parameters of a tag are literals: numbers, texts, octets, fixed words,
lists in brackets, sets, and tables.  Only whether a text is a literal matters
here.  Each function reads from the front of a text and leaves the rest; the
number which some of them take bounds how deeply brackets are nested.
-/

namespace CompilerCalls.Console

/-- The kinds of literals between which other literals make a difference. -/
inductive LiteralKind where
  /-- A number without a sign. -/
  | number (imaginary : Bool)
  | signedNumber (imaginary : Bool)
  /-- Something else which may be a key or the member of a set. -/
  | fixed
  /-- Something which may be neither. -/
  | changing
  deriving DecidableEq, Repr

namespace Literal

/-- What reading gives: what is read, and the rest of the text. -/
abbrev Read (α : Type) := Option (α × List Char)

/-- The greatest number of digits of a whole number. -/
def wholeDigits : Nat := 4300

/-- How deeply brackets may be nested. -/
def nesting : Nat := 200

/-- A text in which every line ends in a line feed. -/
def withPlainLines : List Char → List Char
  | [] => []
  | '\r' :: '\n' :: rest => '\n' :: withPlainLines rest
  | '\r' :: rest => '\n' :: withPlainLines rest
  | character :: rest => character :: withPlainLines rest

/-- The character may stand between the parts of a line. -/
def isGap (character : Char) : Bool := [' ', '\t', '\x0c'].contains character

/-- The rest behind gaps, and behind lines and comments inside of brackets. -/
def skip (inBrackets inComment : Bool) : List Char → List Char
  | [] => []
  | character :: rest =>
      if inComment then skip inBrackets (character != '\n') rest
      else if isGap character then skip inBrackets false rest
      else if inBrackets && character = '\n' then skip inBrackets false rest
      else if inBrackets && character = '#' then skip inBrackets true rest
      else
        match character, rest with
        | '\\', '\n' :: rest => skip inBrackets false rest
        | _, _ => character :: rest

def isWordPart (character : Char) : Bool :=
  character.isAlphanum || character = '_' || 0x80 ≤ character.toNat

/-- Digits, of which single low lines may stand in front of later ones. -/
def moreDigits (isDigit : Char → Bool) : List Char → List Char × List Char
  | '_' :: digit :: rest =>
      if isDigit digit then
        let later := moreDigits isDigit rest
        (digit :: later.1, later.2)
      else ([], '_' :: digit :: rest)
  | digit :: rest =>
      if isDigit digit then
        let later := moreDigits isDigit rest
        (digit :: later.1, later.2)
      else ([], digit :: rest)
  | [] => ([], [])

def digits (isDigit : Char → Bool) : List Char → List Char × List Char
  | '_' :: rest => ([], '_' :: rest)
  | text => moreDigits isDigit text

/-- A whole number in a base up to sixteen, behind the mark of the base. -/
def basedNumber? (base : Nat) (text : List Char) : Read LiteralKind :=
  let isDigit (character : Char) : Bool :=
    (Text.hexValue? character).any (· < base)
  match moreDigits isDigit text with
  | ([], _) => none
  | (_, rest) => some (.number false, rest)

/-- The rest behind an exponent of ten, if there is one. -/
def afterExponent (text : List Char) : Option (List Char) :=
  let afterDigits (rest : List Char) : Option (List Char) :=
    match digits Char.isDigit rest with
    | ([], _) => none
    | (_, rest) => some rest
  match text with
  | mark :: rest =>
      if mark = 'e' ∨ mark = 'E' then
        match rest with
        | '+' :: rest | '-' :: rest => afterDigits rest
        | _ => afterDigits rest
      else none
  | [] => none

/-- A whole number in base ten has no zero in front, unless it is zero, and
does not have too many digits. -/
def isWhole (digits : List Char) : Bool :=
  digits.all (· = '0') ||
    (digits.head? != some '0' && digits.length ≤ wholeDigits)

def decimal? (text : List Char) : Read LiteralKind :=
  let (whole, rest) := digits Char.isDigit text
  let (fraction?, rest) := match rest with
    | '.' :: rest =>
        let read := digits Char.isDigit rest
        (some read.1, read.2)
    | _ => (none, rest)
  if whole = [] ∧ fraction?.getD [] = [] then none
  else
    let (hasExponent, rest) := match afterExponent rest with
      | some rest => (true, rest)
      | none => (false, rest)
    match rest with
    | 'j' :: rest | 'J' :: rest => some (.number true, rest)
    | _ =>
        if fraction?.isSome || hasExponent || isWhole whole then
          some (.number false, rest)
        else none

/-- A number without a sign.  No word follows it directly. -/
def number? (text : List Char) : Read LiteralKind :=
  let read? := match text with
    | '0' :: 'x' :: rest | '0' :: 'X' :: rest => basedNumber? 16 rest
    | '0' :: 'o' :: rest | '0' :: 'O' :: rest => basedNumber? 8 rest
    | '0' :: 'b' :: rest | '0' :: 'B' :: rest => basedNumber? 2 rest
    | _ => decimal? text
  read?.filter fun read => !read.2.head?.any isWordPart

structure QuoteStyle where
  quote : Char
  threefold : Bool
  /-- Backslashes introduce nothing. -/
  raw : Bool
  /-- Octets are written, not characters. -/
  octets : Bool

/-- The rest behind a number of hexadecimal digits, for a number up to a
greatest one. -/
def afterHex (width greatest : Nat) (text : List Char) : Option (List Char) :=
  let digits := (text.take width).filterMap Text.hexValue?
  if digits.length = width ∧
      digits.foldl (fun value digit => 16 * value + digit) 0 ≤ greatest then
    some (text.drop width)
  else none

/-- The rest behind the name of a character in braces. -/
def afterCharName : List Char → Option (List Char)
  | '\x7b' :: rest =>
      let isNamePart (character : Char) : Bool :=
        character.isAlphanum || [' ', '-', '(', ')'].contains character
      match rest.takeWhile isNamePart, rest.dropWhile isNamePart with
      | _ :: _, '\x7d' :: rest => some rest
      | _, _ => none
  | _ => none

/-- The rest behind what a backslash introduces. -/
def afterEscape (style : QuoteStyle) : List Char → Option (List Char)
  | [] => none
  | character :: rest =>
      if style.octets && 0x80 ≤ character.toNat then none
      else if style.raw then some rest
      else if character = 'x' then afterHex 2 0xff rest
      else if style.octets then some rest
      else if character = 'u' then afterHex 4 0xffff rest
      else if character = 'U' then afterHex 8 0x10ffff rest
      else if character = 'N' then afterCharName rest
      else some rest

/-- The rest behind the closing quote; the number bounds how many steps are
taken, each of at least one character. -/
def afterQuoted (style : QuoteStyle) : Nat → List Char → Option (List Char)
  | 0, _ => none
  | _, [] => none
  | steps + 1, character :: rest =>
      if character = '\\' then
        (afterEscape style rest).bind (afterQuoted style steps)
      else if character = style.quote then
        if !style.threefold then some rest
        else if [style.quote, style.quote].isPrefixOf rest then
          some (rest.drop 2)
        else afterQuoted style steps rest
      else if character = '\n' && !style.threefold then none
      else if style.octets && 0x80 ≤ character.toNat then none
      else afterQuoted style steps rest

/-- The letters in front of a quote: whether backslashes introduce nothing,
and whether octets are written. -/
def quoteLetters : List (String × Bool × Bool) :=
  [("", false, false), ("u", false, false), ("r", true, false),
    ("b", false, true), ("br", true, true), ("rb", true, true)]

/-- One quoted text or quoted octets; whether it is octets. -/
def quotedPart? (text : List Char) : Read Bool :=
  let letters := (text.takeWhile Char.isAlpha).map Char.toLower
  match quoteLetters.lookup (String.ofList letters),
      text.dropWhile Char.isAlpha with
  | some (raw, octets), quote :: rest =>
      if quote = '"' ∨ quote = '\'' then
        let threefold := [quote, quote].isPrefixOf rest
        let body := if threefold then rest.drop 2 else rest
        (afterQuoted ⟨quote, threefold, raw, octets⟩ (body.length + 1)
          body).map fun rest => (octets, rest)
      else none
  | _, _ => none

/-- Quoted parts one behind the other, all of the kind of the first one. -/
def quoted? (inBrackets : Bool) : Nat → List Char → Read LiteralKind
  | 0, _ => none
  | parts + 1, text =>
      match quotedPart? text with
      | none => none
      | some (octets, rest) =>
          let next := skip inBrackets false rest
          match quotedPart? next with
          | none => some (.fixed, rest)
          | some (nextOctets, _) =>
              if octets = nextOctets then quoted? inBrackets parts next
              else none

/-- A fixed word, or the word for the empty set. -/
def word? (inBrackets : Bool) (text : List Char) : Read LiteralKind :=
  let rest := text.dropWhile isWordPart
  match String.ofList (text.takeWhile isWordPart) with
  | "None" | "True" | "False" => some (.fixed, rest)
  | "set" =>
      match skip inBrackets false rest with
      | '(' :: rest =>
          match skip true false rest with
          | ')' :: rest => some (.changing, rest)
          | _ => none
      | _ => none
  | _ => none

/-- The literal may be a key or the member of a set. -/
def isFixed (kind : LiteralKind) : Bool := kind != .changing

def plain? (inBrackets : Bool) (text : List Char) : Read LiteralKind :=
  match text with
  | '.' :: '.' :: '.' :: rest => some (.fixed, rest)
  | _ =>
      number? text <|> quoted? inBrackets (text.length + 1) text <|>
        word? inBrackets text

/-- A literal which is no sum, if `atom?` reads one without a sign. -/
def signed? (inBrackets : Bool) (atom? : List Char → Read LiteralKind)
    (text : List Char) : Read LiteralKind :=
  match text with
  | '+' :: rest | '-' :: rest =>
      match atom? (skip inBrackets false rest) with
      | some (.number imaginary, rest) => some (.signedNumber imaginary, rest)
      | _ => none
  | _ => atom? text

def startsSum : LiteralKind → Bool
  | .number imaginary | .signedNumber imaginary => !imaginary
  | _ => false

/-- A literal, if `atom?` reads one without a sign.  A sum has a real number
in front and an imaginary one behind. -/
def sum? (inBrackets : Bool) (atom? : List Char → Read LiteralKind)
    (text : List Char) : Read LiteralKind :=
  match signed? inBrackets atom? text with
  | none => none
  | some (kind, rest) =>
      match skip inBrackets false rest with
      | '+' :: rest | '-' :: rest =>
          match startsSum kind, atom? (skip inBrackets false rest) with
          | true, some (.number true, rest) => some (.fixed, rest)
          | _, _ => none
      | _ => some (kind, rest)

/-- What stands between the brackets of a list. -/
def listItems? (item? : List Char → Read LiteralKind) :
    Nat → LiteralKind → List Char → Read LiteralKind
  | 0, _, _ => none
  | items + 1, kind, text =>
      match text with
      | ')' :: rest => some (kind, rest)
      | _ =>
          match item? text with
          | none => none
          | some (item, rest) =>
              let kind := if isFixed item then kind else .changing
              match skip true false rest with
              | ')' :: rest => some (kind, rest)
              | ',' :: rest =>
                  listItems? item? items kind (skip true false rest)
              | _ => none

/-- A literal in brackets, or a list; behind the opening bracket. -/
def group? (item? : List Char → Read LiteralKind) (text : List Char) :
    Read LiteralKind :=
  match text with
  | ')' :: rest => some (.fixed, rest)
  | _ =>
      match item? text with
      | none => none
      | some (item, rest) =>
          match skip true false rest with
          | ')' :: rest => some (item, rest)
          | ',' :: rest =>
              listItems? item? (rest.length + 1)
                (if isFixed item then .fixed else .changing)
                (skip true false rest)
          | _ => none

/-- A key and maybe the value behind it; whether there is one. -/
def field? (item? : List Char → Read LiteralKind) (text : List Char) :
    Read Bool :=
  match item? text with
  | some (key, rest) =>
      if isFixed key then
        match skip true false rest with
        | ':' :: rest =>
            (item? (skip true false rest)).map fun read => (true, read.2)
        | rest => some (false, rest)
      else none
  | none => none

/-- What stands between the braces of a set or a table, behind fields which
have values or have none. -/
def fields? (item? : List Char → Read LiteralKind) (haveValues? : Option Bool) :
    Nat → List Char → Read LiteralKind
  | 0, _ => none
  | fields + 1, text =>
      match text with
      | '\x7d' :: rest => some (.changing, rest)
      | _ =>
          match field? item? text with
          | none => none
          | some (hasValue, rest) =>
              if haveValues?.getD hasValue = hasValue then
                match skip true false rest with
                | '\x7d' :: rest => some (.changing, rest)
                | ',' :: rest =>
                    fields? item? (some hasValue) fields (skip true false rest)
                | _ => none
              else none

/-- A literal without a sign, in which brackets are nested up to a depth. -/
def atom? (depth : Nat) (inBrackets : Bool) (text : List Char) :
    Read LiteralKind :=
  match depth, text with
  | 0, '(' :: _ | 0, '\x7b' :: _ => none
  | depth + 1, '(' :: rest =>
      group? (sum? true (atom? depth true)) (skip true false rest)
  | depth + 1, '\x7b' :: rest =>
      fields? (sum? true (atom? depth true)) none (rest.length + 1)
        (skip true false rest)
  | _, _ => plain? inBrackets text

/-- Nothing but gaps, lines, and comments. -/
def isEmpty (text : List Char) : Bool := (skip true false text).isEmpty

/-- Literals with commas between them, up to the end of the text. -/
def isList : Nat → List Char → Bool
  | 0, _ => false
  | items + 1, text =>
      match sum? false (atom? nesting false) text with
      | none => false
      | some (_, rest) =>
          match skip false false rest with
          | ',' :: rest =>
              let rest := skip false false rest
              isEmpty rest || isList items rest
          | rest => isEmpty rest

end Literal

/-- The text is a literal, or a list of them without brackets.  Comments may
stand in lines above it; it stands at the start of its line. -/
def isLiteral (text : List Char) : Bool :=
  let text := (Literal.withPlainLines text).dropWhile fun character =>
    character = ' ' ∨ character = '\t'
  let body := Literal.skip true false text
  let above := text.take (text.length - body.length)
  let isIndented :=
    above.getLast? == some ' ' || above.getLast? == some '\t'
  !text.contains '\x00' && !isIndented &&
    Literal.isList (body.length + 1) body

end CompilerCalls.Console
