import Segmentation.Text.Basic

/-!
# Grouped digits

Runs of digits in which single underscores may stand between two digits, as sources and settings
write long numbers.
-/

namespace Segmentation

/-- The length of digits with single underscores between them. -/
def digitRun (isDigit : Char → Bool) : Text → Nat
  | [] => 0
  | character :: rest =>
      if isDigit character then 1 + digitRun isDigit rest
      else
        match character, rest with
        | '_', next :: _ => if isDigit next then 1 + digitRun isDigit rest else 0
        | _, _ => 0

/-- The length of grouped digits that begin with a digit. -/
def groupedDigits (isDigit : Char → Bool) : Text → Nat
  | '_' :: _ => 0
  | text => digitRun isDigit text

/-- A hexadecimal digit. -/
def isHexDigit (character : Char) : Bool :=
  character.isDigit || ('a' ≤ character && character ≤ 'f') || ('A' ≤ character && character ≤ 'F')

/-- The value of a hexadecimal digit. -/
def hexValue (character : Char) : Nat :=
  if character.isDigit then character.toNat - '0'.toNat
  else character.toLower.toNat - 'a'.toNat + 10

/-- The value of grouped digits in the given base. -/
def groupedValue (base : Nat) (text : Text) : Nat :=
  (text.filter (· != '_')).foldl (fun value digit => value * base + hexValue digit) 0

end Segmentation
