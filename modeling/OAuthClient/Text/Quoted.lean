import OAuthClient.Text.Digit
import OAuthClient.Text.Printable

/-!
# Quoted text

Text shown between quotes with escapes, as in messages and debug output. The single quote is used
unless the text holds one and no double quote.
-/

namespace OAuthClient.Text

/-- The quote that surrounds a text. -/
def quoteFor (text : List Char) : Char :=
  if text.contains '\'' && !text.contains '"' then '"' else '\''

/-- A character between quotes: the quote and the backslash take a backslash, three controls have a
letter, and every other character that is not printable shows its code point in hexadecimal. -/
def quotedChar (quote c : Char) : List Char :=
  if c == quote || c == '\\' then ['\\', c]
  else if c == '\t' then ['\\', 't']
  else if c == '\n' then ['\\', 'n']
  else if c == '\r' then ['\\', 'r']
  else if isPrintable c then [c]
  else if c.toNat < 0x100 then '\\' :: 'x' :: hexFixed 2 c.toNat
  else if c.toNat < 0x10000 then '\\' :: 'u' :: hexFixed 4 c.toNat
  else '\\' :: 'U' :: hexFixed 8 c.toNat

/-- A text between quotes. -/
def quotedChars (text : List Char) : List Char :=
  let quote := quoteFor text
  quote :: text.flatMap (quotedChar quote) ++ [quote]

/-- A string between quotes. -/
def quoted (text : String) : String := String.ofList (quotedChars text.toList)

end OAuthClient.Text
