import ChipEight.Text.Numeral
import ChipEight.Text.Printable

namespace ChipEight.Text

/-!
# Quoted text

Text is shown between two equal quotes. They are single quotes, except around
text that holds a single quote and no double one. Inside, the quote itself and
the backslash are written behind a backslash, and a character that is not
printable is written by its code point.
-/

/-- The single quote. -/
def singleQuote : Char := '\x27'

/-- The double quote. -/
def doubleQuote : Char := '\x22'

/-- The quote put around a text. -/
def quoteFor
    (characters : List Char) :
    Char :=
  if characters.contains singleQuote && !characters.contains doubleQuote then
    doubleQuote
  else
    singleQuote

/--
A code point in hexadecimal behind a backslash and a letter that tells
its width.
-/
def escapedCodePoint
    (codePoint : Nat) :
    List Char :=
  if codePoint < 0x100 then
    '\\' :: 'x' :: (NumeralStyle.hexadecimal 2).characters codePoint
  else if codePoint < 0x10000 then
    '\\' :: 'u' :: (NumeralStyle.hexadecimal 4).characters codePoint
  else
    '\\' :: 'U' :: (NumeralStyle.hexadecimal 8).characters codePoint

/-- One character as it is written between the given quotes. -/
def quotedCharacter
    (quote : Char)
    (character : Char) :
    List Char :=
  if character = quote ∨ character = '\\' then
    ['\\', character]
  else if character = '\t' then
    ['\\', 't']
  else if character = '\n' then
    ['\\', 'n']
  else if character = '\r' then
    ['\\', 'r']
  else if isPrintable character then
    [character]
  else
    escapedCodePoint character.toNat

/-- The characters of a quoted text. -/
def quotedCharacters
    (characters : List Char) :
    List Char :=
  let quote := quoteFor characters
  quote :: characters.flatMap (quotedCharacter quote) ++ [quote]

/-- A text in quotes. -/
def quoted
    (text : String) :
    String :=
  String.ofList (quotedCharacters text.toList)

/-- The first characters of a text in quotes, at most as many as asked for. -/
def quotedPrefix
    (count : Nat)
    (text : String) :
    String :=
  String.ofList ((quotedCharacters text.toList).take count)

end ChipEight.Text
