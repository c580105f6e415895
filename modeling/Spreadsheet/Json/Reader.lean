import Spreadsheet.Json
import Spreadsheet.Text.Cut
import Spreadsheet.Text.Digit
import Spreadsheet.Text.Quoted

/-!
# Reading JSON

`Json.read?` reads a text that is one JSON value. Of fields with the same name the last one counts.
Two escaped code units that are the halves of a pair are one character; a half without the other
is a surrogate of the text.
-/

namespace Spreadsheet.Json

open Text (cut digitsValue doubleQuote backslash)

/-- The text without the white space at its front. -/
def skipBlank (cs : List Char) : List Char :=
  cs.dropWhile fun c => c = ' ' || c = '\t' || c = '\n' || c = '\r'

/-- The value of a hexadecimal digit. -/
def hexValue? (c : Char) : Option Nat :=
  if c.isDigit then some (c.toNat - 48)
  else if 'a' ≤ c && c ≤ 'f' then some (c.toNat - 87)
  else if 'A' ≤ c && c ≤ 'F' then some (c.toNat - 55)
  else none

/-- The number that four hexadecimal digits write. -/
def codeUnit? (a b c d : Char) : Option Nat := do
  let a ← hexValue? a
  let b ← hexValue? b
  let c ← hexValue? c
  let d ← hexValue? d
  some (((a * 16 + b) * 16 + c) * 16 + d)

/-- The second half of a pair at the front of a text. -/
def lowUnit? : List Char → Option (Nat × List Char)
  | e :: 'u' :: a :: b :: c :: d :: rest =>
    if e = backslash then
      match codeUnit? a b c d with
      | some u => if 0xDC00 ≤ u && u < 0xE000 then some (u, rest) else none
      | none => none
    else none
  | _ => none

/-- The character that a backslash and the character after it stand for. -/
def simpleEscape? (c : Char) : Option Char :=
  if c = doubleQuote || c = backslash || c = '/' then some c
  else if c = 'n' then some '\n'
  else if c = 'r' then some '\r'
  else if c = 't' then some '\t'
  else if c = 'b' then some '\x08'
  else if c = 'f' then some '\x0c'
  else none

/-- One code point of a string, escaped or not, and what follows it. -/
def readPoint? : List Char → Option (CodePoint × List Char)
  | [] => none
  | c :: rest =>
    if c = backslash then
      match rest with
      | 'u' :: a :: b :: d :: e :: rest =>
        match codeUnit? a b d e with
        | none => none
        | some u =>
          if 0xD800 ≤ u && u < 0xDC00 then
            match lowUnit? rest with
            | some (v, rest) =>
              some (.ofNumber (0x10000 + (u - 0xD800) * 0x400 + (v - 0xDC00)), rest)
            | none => some (.ofNumber u, rest)
          else some (.ofNumber u, rest)
      | d :: rest => (simpleEscape? d).map fun x => (x, rest)
      | [] => none
    else if c.toNat < 0x20 then none
    else some (c, rest)

/-- The rest of a string whose opening quote has been read. -/
def readStringFrom? : (fuel : Nat) → List Char → Option (Text × List Char)
  | 0, _ => none
  | fuel + 1, cs =>
    if cs.head? = some doubleQuote then some ([], cs.tail)
    else
      match readPoint? cs with
      | none => none
      | some (c, rest) => (readStringFrom? fuel rest).map fun (t, rest) => (c :: t, rest)

/-- A string at the front of a text. -/
def readString? : List Char → Option (Text × List Char)
  | [] => none
  | c :: rest =>
    if c = doubleQuote then readStringFrom? (rest.length + 1) rest else none

/-- Digits at the front of a text, at least one. -/
def readDigits? (cs : List Char) : Option (List Char × List Char) :=
  match cut Char.isDigit cs with
  | ([], _) => none
  | found => some found

/-- The fraction of a number, if there is one. -/
def readFraction (cs : List Char) : Option (List Char) × List Char :=
  match cs with
  | '.' :: rest =>
    match readDigits? rest with
    | some (ds, rest) => (some ds, rest)
    | none => (none, cs)
  | _ => (none, cs)

/-- The exponent of a number, if there is one. -/
def readExponent (cs : List Char) : Option Int × List Char :=
  match cs with
  | mark :: rest =>
    if mark = 'e' || mark = 'E' then
      let (negative, digits) :=
        match rest with
        | '-' :: ds => (true, ds)
        | '+' :: ds => (false, ds)
        | ds => (false, ds)
      match readDigits? digits with
      | some (ds, rest) =>
        let value := digitsValue (.ofChars ds)
        (some (if negative then -(value : Int) else value), rest)
      | none => (none, cs)
    else (none, cs)
  | [] => (none, cs)

/-- The digits before the point: a single zero, or digits that do not start with one. -/
def readWhole? : List Char → Option (List Char × List Char)
  | '0' :: rest => some (['0'], rest)
  | cs => readDigits? cs

/-- A number at the front of a text. -/
def readNumber? (cs : List Char) : Option (Json × List Char) :=
  let (negative, digits) :=
    match cs with
    | '-' :: ds => (true, ds)
    | ds => (false, ds)
  match readWhole? digits with
  | none => none
  | some (whole, rest) =>
    let (fraction, rest) := readFraction rest
    let (exponent, rest) := readExponent rest
    let magnitude := digitsValue (.ofChars (whole ++ fraction.getD []))
    let mantissa : Int := if negative then -(magnitude : Int) else magnitude
    match fraction, exponent with
    | none, none => some (integer mantissa, rest)
    | fraction, exponent =>
      some (decimal mantissa (exponent.getD 0 - (fraction.getD []).length), rest)

/-- What follows the word for infinity. -/
def afterInfinity? : List Char → Option (List Char)
  | 'I' :: 'n' :: 'f' :: 'i' :: 'n' :: 'i' :: 't' :: 'y' :: rest => some rest
  | _ => none

/-- A word at the front of a text. -/
def readWord? : List Char → Option (Json × List Char)
  | 'n' :: 'u' :: 'l' :: 'l' :: rest => some (null, rest)
  | 't' :: 'r' :: 'u' :: 'e' :: rest => some (bool true, rest)
  | 'f' :: 'a' :: 'l' :: 's' :: 'e' :: rest => some (bool false, rest)
  | 'N' :: 'a' :: 'N' :: rest => some (nonFinite, rest)
  | '-' :: rest => (afterInfinity? rest).map fun rest => (nonFinite, rest)
  | cs => (afterInfinity? cs).map fun rest => (nonFinite, rest)

mutual

/-- A value after white space, in a text of fewer than `fuel` characters. -/
def readValue? : (fuel : Nat) → List Char → Option (Json × List Char)
  | 0, _ => none
  | fuel + 1, cs =>
    match skipBlank cs with
    | [] => none
    | '[' :: rest =>
      match skipBlank rest with
      | ']' :: rest => some (array [], rest)
      | rest => (readItems? fuel rest).map fun (items, rest) => (array items, rest)
    | '\x7b' :: rest =>
      match skipBlank rest with
      | '\x7d' :: rest => some (object [], rest)
      | rest => (readFields? fuel [] rest).map fun (fields, rest) => (object fields, rest)
    | c :: rest =>
      if c = doubleQuote then
        (readString? (c :: rest)).map fun (t, rest) => (string t, rest)
      else (readWord? (c :: rest)).or (readNumber? (c :: rest))

/-- The items of an array that is not empty, up to the closing bracket. -/
def readItems? : (fuel : Nat) → List Char → Option (List Json × List Char)
  | 0, _ => none
  | fuel + 1, cs =>
    match readValue? fuel cs with
    | none => none
    | some (item, rest) =>
      match skipBlank rest with
      | ',' :: rest => (readItems? fuel rest).map fun (items, rest) => (item :: items, rest)
      | ']' :: rest => some ([item], rest)
      | _ => none

/-- The fields of an object that is not empty, up to the closing brace, after those already
read. -/
def readFields? : (fuel : Nat) → List (Text × Json) → List Char →
    Option (List (Text × Json) × List Char)
  | 0, _, _ => none
  | fuel + 1, fields, cs =>
    match readString? (skipBlank cs) with
    | none => none
    | some (key, rest) =>
      match skipBlank rest with
      | ':' :: rest =>
        match readValue? fuel rest with
        | none => none
        | some (v, rest) =>
          let fields := setField fields key v
          match skipBlank rest with
          | ',' :: rest => readFields? fuel fields rest
          | '\x7d' :: rest => some (fields, rest)
          | _ => none
      | _ => none

end

/-- The JSON value that characters write. -/
def readChars? (cs : List Char) : Option Json :=
  match readValue? (cs.length + 1) cs with
  | some (j, rest) => if (skipBlank rest).isEmpty then some j else none
  | none => none

/-- The JSON value that a text writes. -/
def read? (s : String) : Option Json :=
  readChars? s.toList

end Spreadsheet.Json
