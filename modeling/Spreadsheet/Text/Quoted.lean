import Spreadsheet.Text
import Spreadsheet.Text.PrintableTable

/-!
# Quoted text

Messages show a text between quotes, with what cannot be printed written as an escape. The quote
is the apostrophe, or the double quote when the text holds an apostrophe and no double quote.
-/

namespace Spreadsheet.Text

/-- The apostrophe. -/
def apostrophe : Char := '\x27'

/-- The double quote. -/
def doubleQuote : Char := '\x22'

/-- The backslash, which starts an escape. -/
def backslash : Char := '\x5c'

/-- Whether a code point is shown as it is. -/
def isPrintable (c : CodePoint) : Bool :=
  (printableChanges.takeWhile (· ≤ c.number)).length % 2 == 0

/-- The `width` lowest hexadecimal digits of a number, in lower case. -/
def hexDigits : (width : Nat) → Nat → List Char
  | 0, _ => []
  | width + 1, n => hexDigits width (n / 16) ++ [Nat.digitChar (n % 16)]

/-- A numeric escape: two digits after `x`, four after `u` or eight after `U`, the shortest that
holds the code point. -/
def numericEscape (n : Nat) : List Char :=
  if n < 0x100 then backslash :: 'x' :: hexDigits 2 n
  else if n < 0x10000 then backslash :: 'u' :: hexDigits 4 n
  else backslash :: 'U' :: hexDigits 8 n

/-- One code point between quotes. -/
def quotedPoint (quote : Char) (c : CodePoint) : Text :=
  if c = quote || c = backslash then [.char backslash, c]
  else if c = '\n' then ofChars [backslash, 'n']
  else if c = '\r' then ofChars [backslash, 'r']
  else if c = '\t' then ofChars [backslash, 't']
  else if isPrintable c then [c]
  else ofChars (numericEscape c.number)

/-- The quote that a text is shown with. -/
def quoteFor (t : Text) : Char :=
  if t.contains (.char apostrophe) && !t.contains (.char doubleQuote) then doubleQuote
  else apostrophe

/-- A text between quotes. -/
def quoted (t : Text) : Text :=
  let quote := quoteFor t
  .char quote :: t.flatMap (quotedPoint quote) ++ [.char quote]

end Spreadsheet.Text
