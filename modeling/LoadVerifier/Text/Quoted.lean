/-
This file writes texts and byte strings in quotes, so that they can stand inside a message.

The quote is a single one, unless the content holds a single quote and no double quote. A
backslash, the quote itself, tabs and line ends are escaped by a backslash; whatever else is not
printable is written by its number in lower-case hexadecimal. Byte strings follow the same rule,
except that every byte outside the visible ASCII characters is written by its number.
-/
import LoadVerifier.Text.Printable

namespace LoadVerifier.Text

/-- The last `width` hexadecimal digits of a number, in lower case. -/
def hexDigits : (width : Nat) → Nat → List Char
  | 0, _ => []
  | width + 1, number => Nat.digitChar (number >>> (4 * width) % 16) :: hexDigits width number

/-- The quote to use around a content: single, unless only single quotes occur in it. -/
def quoteFor (content : List Char) : Char :=
  if content.contains '\x27' && !content.contains '"' then '"' else '\x27'

/-- The escapes that texts and byte strings share. -/
def shortEscape? (quote character : Char) : Option (List Char) :=
  if character = quote || character = '\\' then some ['\\', character]
  else if character = '\t' then some ['\\', 't']
  else if character = '\n' then some ['\\', 'n']
  else if character = '\r' then some ['\\', 'r']
  else none

/-- How one character of a quoted text is written. -/
def escapeCharacter (quote character : Char) : List Char :=
  let code := character.toNat
  match shortEscape? quote character with
  | some escaped => escaped
  | none =>
    if 0x20 ≤ code && code < 0x7f then [character]
    else if isPrintable character then [character]
    else if code < 0x100 then '\\' :: 'x' :: hexDigits 2 code
    else if code < 0x10000 then '\\' :: 'u' :: hexDigits 4 code
    else '\\' :: 'U' :: hexDigits 8 code

/-- How one byte of a quoted byte string is written. -/
def escapeByte (quote : Char) (byte : UInt8) : List Char :=
  let character := Char.ofNat byte.toNat
  match shortEscape? quote character with
  | some escaped => escaped
  | none =>
    if 0x20 ≤ byte.toNat && byte.toNat < 0x7f then [character]
    else '\\' :: 'x' :: hexDigits 2 byte.toNat

/-- A text in quotes. -/
def quoted (text : String) : String :=
  let quote := quoteFor text.toList
  String.ofList (quote :: text.toList.flatMap (escapeCharacter quote) ++ [quote])

/-- A byte string in quotes, behind the letter `b`. -/
def quotedBytes (bytes : List UInt8) : String :=
  let quote := quoteFor (bytes.map fun byte => Char.ofNat byte.toNat)
  String.ofList ('b' :: quote :: bytes.flatMap (escapeByte quote) ++ [quote])

end LoadVerifier.Text
