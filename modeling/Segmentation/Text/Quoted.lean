import Segmentation.Text.Basic
import Segmentation.Text.Printable

/-!
# Quoted texts

A text as it is shown inside a message: in quotes, on one line, with everything that is not
printable escaped. Apostrophes quote, unless the text holds apostrophes and no double quotes.
-/

namespace Segmentation.Text

/-- The lowest hexadecimal digits of a number, as many as asked for. -/
def hexDigits : Nat → Nat → Text
  | 0, _ => []
  | count + 1, number => hexDigits count (number / 16) ++ [Nat.digitChar (number % 16)]

/-- The quote in which a text is shown. -/
def quoteFor (text : Text) : Char :=
  if text.elem '\'' && !text.elem '"' then '"' else '\''

/-- A character as it is shown between quotes of the given kind. -/
def showCharacter (mark character : Char) : Text :=
  let code := character.toNat
  if character = mark || character = '\\' then ['\\', character]
  else if character = '\n' then ['\\', 'n']
  else if character = '\r' then ['\\', 'r']
  else if character = '\t' then ['\\', 't']
  else if isPrintable character then [character]
  else if code < 0x100 then '\\' :: 'x' :: hexDigits 2 code
  else if code < 0x10000 then '\\' :: 'u' :: hexDigits 4 code
  else '\\' :: 'U' :: hexDigits 8 code

/-- A text in its quotes. -/
def quoted (text : Text) : Text :=
  let mark := quoteFor text
  mark :: (text.flatMap (showCharacter mark) ++ [mark])

example : quoted "it's\n".toList = "\"it's\\n\"".toList := by decide +kernel

end Segmentation.Text
