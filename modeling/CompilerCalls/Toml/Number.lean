import CompilerCalls.Text.Hex
import CompilerCalls.Toml.Value

/-!
# Numbers in settings documents

A number takes as many characters as it can.  Single underscores may stand
between digits.
-/

namespace CompilerCalls.Toml

/-- The values of further digits, and what follows them. -/
def moreDigits (digit? : Char → Option Nat) : List Char → List Nat × List Char
  | [] => ([], [])
  | [character] =>
      match digit? character with
      | some value => ([value], [])
      | none => ([], [character])
  | character :: next :: rest =>
      match digit? character with
      | some value =>
          let later := moreDigits digit? (next :: rest)
          (value :: later.1, later.2)
      | none =>
          match if character = '_' then digit? next else none with
          | some value =>
              let later := moreDigits digit? rest
              (value :: later.1, later.2)
          | none => ([], character :: next :: rest)

/-- The values of one or more digits, and what follows them. -/
def digits? (digit? : Char → Option Nat) :
    List Char → Option (List Nat × List Char)
  | [] => none
  | character :: rest =>
      (digit? character).map fun value =>
        let later := moreDigits digit? rest
        (value :: later.1, later.2)

def digitIn? (base : Nat) (character : Char) : Option Nat :=
  (Text.hexValue? character).filter (· < base)

def number (base : Nat) (digits : List Nat) : Nat :=
  digits.foldl (fun value digit => base * value + digit) 0

def basedInteger? (text : List Char) : Option (Value × List Char) :=
  let read? (base : Nat) (rest : List Char) :=
    (digits? (digitIn? base) rest).map fun read =>
      (Value.integer (number base read.1), read.2)
  match text with
  | '0' :: 'x' :: rest => read? 16 rest
  | '0' :: 'o' :: rest => read? 8 rest
  | '0' :: 'b' :: rest => read? 2 rest
  | _ => none

/-- A sign, if there is one; the number is negative. -/
def sign : List Char → Bool × List Char
  | '-' :: rest => (true, rest)
  | '+' :: rest => (false, rest)
  | text => (false, text)

/-- The digits before the point: a zero alone, or none in front. -/
def wholeDigits? : List Char → Option (List Nat × List Char)
  | '0' :: rest => some ([0], rest)
  | text => digits? (digitIn? 10) text

/-- The digits behind a point, if there are any. -/
def fractionDigits : List Char → List Nat × List Char
  | '.' :: rest => (digits? (digitIn? 10) rest).getD ([], '.' :: rest)
  | text => ([], text)

def tenExponent (text : List Char) : Option Int × List Char :=
  let read? (rest : List Char) :=
    let signed := sign rest
    (digits? (digitIn? 10) signed.2).map fun read =>
      let value : Int := number 10 read.1
      (some (if signed.1 then -value else value), read.2)
  match text with
  | 'e' :: rest => (read? rest).getD (none, text)
  | 'E' :: rest => (read? rest).getD (none, text)
  | _ => (none, text)

/-- A number in base ten: a whole one, unless it has a fraction or an
exponent. -/
def decimal (text : List Char) : Except ReadFault (Value × List Char) :=
  let (isNegative, rest) := sign text
  match wholeDigits? rest with
  | none => .error .malformed
  | some (whole, rest) =>
      let (fraction, rest) := fractionDigits rest
      let (exponent?, rest) := tenExponent rest
      let digits := number 10 (whole ++ fraction)
      if fraction ≠ [] ∨ exponent? ≠ none then
        .ok (.float (Decimal.Binary64.ofDecimal isNegative digits
          (exponent?.getD 0 - fraction.length)), rest)
      else if integerDigits < whole.length then
        .error (.integerTooLong whole.length)
      else .ok (.integer (if isNegative then -digits else digits), rest)

/-- A number which is none or too great. -/
def specialFloat? (text : List Char) : Option (Value × List Char) :=
  let signed := sign text
  match signed.2 with
  | 'i' :: 'n' :: 'f' :: rest => some (.float (.infinite signed.1), rest)
  | 'n' :: 'a' :: 'n' :: rest => some (.float .notANumber, rest)
  | _ => none

def readNumber (text : List Char) : Except ReadFault (Value × List Char) :=
  match basedInteger? text <|> specialFloat? text with
  | some read => .ok read
  | none => decimal text

end CompilerCalls.Toml
