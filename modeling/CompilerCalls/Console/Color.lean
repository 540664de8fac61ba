import CompilerCalls.Console.ColorName
import CompilerCalls.Text.DecimalDigit
import CompilerCalls.Text.Hex
import CompilerCalls.Text.Lowercase
import CompilerCalls.Text.Space
import CompilerCalls.Text.Split

/-!
# Colours

A colour is written as a name, as its number, or by its parts of red, green,
and blue.  It is known by the way it is written, in lower case.
-/

namespace CompilerCalls.Console

inductive StyleFault where
  | malformed
  /-- A part of a colour is written with no digits, or with more than a number
  may have. -/
  | unreadableNumber
  deriving DecidableEq, Repr

/-- The greatest number of digits with which a part of a colour is read. -/
def partDigits : Nat := 4300

/-- What stands in brackets behind a word. -/
def bracketed? (word : String) (text : List Char) : Option (List Char) :=
  let start := word.toList ++ ['(']
  if start.isPrefixOf text && text.getLast? == some ')' then
    some ((text.drop start.length).dropLast)
  else none

def isHexColor : List Char → Bool
  | '#' :: digits =>
      digits.length = 6 && digits.all fun digit =>
        (Text.hexValue? digit).isSome
  | _ => false

/-- The number of a colour: up to three digits, for at most 255. -/
def isColorNumber (digits : List Char) : Bool :=
  1 ≤ digits.length && digits.length ≤ 3 && digits.all Char.isDigit &&
    Text.decimalValue digits ≤ 255

/-- Three parts with commas between them, each at most 255. -/
def checkParts (written : List Char) : Except StyleFault Unit :=
  let isPartChar (character : Char) : Bool :=
    Text.isDecimalDigit character || character = ','
  let parts := Text.split [','] written
  if written = [] ∨ !written.all isPartChar ∨ parts.length ≠ 3 then
    .error .malformed
  else if parts.any fun part => part = [] || partDigits < part.length then
    .error .unreadableNumber
  else if parts.all fun part => Text.decimalValue part ≤ 255 then .ok ()
  else .error .malformed

/-- The way in which a colour is known, for a word. -/
def colorOf (word : List Char) : Except StyleFault String :=
  let written := Text.lowercase word
  let name := String.ofList written
  if name = "default" ∨ colorNames.contains name ∨ isHexColor written then
    .ok name
  else
    match bracketed? "color" written with
    | some number =>
        if isColorNumber number then .ok name else .error .malformed
    | none =>
        match bracketed? "rgb" written with
        | some parts => (checkParts parts).map fun _ => name
        | none => .error .malformed

end CompilerCalls.Console
