import Spreadsheet.Json
import Spreadsheet.Text.Quoted

/-!
# Writing JSON

JSON is written on one line, with a blank after every comma and colon, in ASCII: any other code
point is escaped by its code units of sixteen bits.
-/

namespace Spreadsheet.Json

open Text (hexDigits doubleQuote backslash)

/-- The code units of sixteen bits of the code point with the given number. -/
def codeUnits (n : Nat) : List Nat :=
  if n < 0x10000 then [n]
  else [0xD800 + (n - 0x10000) / 0x400, 0xDC00 + (n - 0x10000) % 0x400]

/-- A code point escaped by its code units. -/
def escape (c : CodePoint) : List Char :=
  (codeUnits c.number).flatMap fun u => backslash :: 'u' :: hexDigits 4 u

/-- One character of a string. -/
def writeChar (c : Char) : List Char :=
  if c = doubleQuote || c = backslash then [backslash, c]
  else if c = '\n' then [backslash, 'n']
  else if c = '\r' then [backslash, 'r']
  else if c = '\t' then [backslash, 't']
  else if c = '\x08' then [backslash, 'b']
  else if c = '\x0c' then [backslash, 'f']
  else if 0x20 ≤ c.toNat && c.toNat < 0x7F then [c]
  else escape c

/-- One code point of a string. -/
def writePoint : CodePoint → List Char
  | .char c => writeChar c
  | .surrogate n => escape (.surrogate n)

/-- A string between double quotes. -/
def writeString (t : Text) : List Char :=
  doubleQuote :: t.flatMap writePoint ++ [doubleQuote]

/-- An integer in decimal digits. -/
def writeInt (n : Int) : List Char :=
  if n < 0 then '-' :: Nat.toDigits 10 n.natAbs else Nat.toDigits 10 n.natAbs

mutual

/-- The text of a JSON value. -/
def writeChars : Json → List Char
  | null => ['n', 'u', 'l', 'l']
  | bool true => ['t', 'r', 'u', 'e']
  | bool false => ['f', 'a', 'l', 's', 'e']
  | integer n => writeInt n
  | decimal m e => writeInt m ++ 'e' :: writeInt e
  | nonFinite => ['N', 'a', 'N']
  | string t => writeString t
  | array [] => ['[', ']']
  | array (item :: items) => '[' :: writeChars item ++ writeItems items
  | object [] => ['\x7b', '\x7d']
  | object ((key, v) :: fields) =>
    '\x7b' :: writeString key ++ ':' :: ' ' :: writeChars v ++ writeFields fields

/-- The items of an array after the first one, up to the closing bracket. -/
def writeItems : List Json → List Char
  | [] => [']']
  | item :: items => ',' :: ' ' :: writeChars item ++ writeItems items

/-- The fields of an object after the first one, up to the closing brace. -/
def writeFields : List (Text × Json) → List Char
  | [] => ['\x7d']
  | (key, v) :: fields =>
    ',' :: ' ' :: writeString key ++ ':' :: ' ' :: writeChars v ++ writeFields fields

end

/-- The text of a JSON value. -/
def write (j : Json) : String :=
  String.ofList j.writeChars

end Spreadsheet.Json
