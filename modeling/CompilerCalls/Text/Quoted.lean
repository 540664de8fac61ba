import CompilerCalls.Text.Hex
import CompilerCalls.Text.Printable

/-!
# Quoted texts

Messages show a text between single quotes, or between double quotes when the
text holds a single quote and no double quote.  The quote in use and the
backslash are written with a backslash before them; line feed, carriage
return, and tab have short escapes; other unprintable characters are written
by their code point in the shortest escape that fits.
-/

namespace CompilerCalls.Text

/-- The quote which surrounds a text. -/
def quoteOf (text : List Char) : Char :=
  if text.contains '\'' && !text.contains '"' then '"' else '\''

/-- One character of a text between the given quotes. -/
def quotedChar (quote character : Char) : List Char :=
  if character = quote ∨ character = '\\' then ['\\', character]
  else if character = '\n' then ['\\', 'n']
  else if character = '\r' then ['\\', 'r']
  else if character = '\t' then ['\\', 't']
  else if isPrintable character then [character]
  else if character.toNat ≤ 0xff then
    '\\' :: 'x' :: hexDigits 2 character.toNat
  else if character.toNat ≤ 0xffff then
    '\\' :: 'u' :: hexDigits 4 character.toNat
  else '\\' :: 'U' :: hexDigits 8 character.toNat

def quoted (text : String) : String :=
  let quote := quoteOf text.toList
  String.ofList
    (quote :: text.toList.flatMap (quotedChar quote) ++ [quote])

end CompilerCalls.Text
