import Segmentation.Number.Digits
import Segmentation.Text.Word

/-!
# Spelled integers

Two rules for integers that are written as text, with blanks around them. Fields have ASCII digits,
may end with a fraction of zeros, and are generous about zeros in front: signs and underscores among
those do no harm. Entries have digits of any script and nothing else. Both refuse numbers with more
digits than the limit.
-/

namespace Segmentation

/-- The most digits that are read as one number. -/
def digitLimit : Nat := 4300

/-- Why a text is not read as an integer. -/
inductive SpellingFault where
  | notInteger
  /-- The text has so many digits. -/
  | tooLong (digits : Nat)
  deriving DecidableEq, Repr

/-- The wording of the refusal of too many digits. -/
def tooLongMessage (digits : Nat) : Text :=
  "Exceeds the limit (".toList ++ Text.ofNat digitLimit ++
    " digits) for integer string conversion: value has ".toList ++ Text.ofNat digits ++
    " digits; use sys.set_int_max_str_digits() to increase the limit".toList

/-- The wording of the refusal to write an integer with too many digits. -/
def unwritableMessage : Text :=
  "Exceeds the limit (".toList ++ Text.ofNat digitLimit ++
    " digits) for integer string conversion; ".toList ++
    "use sys.set_int_max_str_digits() to increase the limit".toList

namespace Spelled

/-- A magnitude with its sign. -/
def signed (negative : Bool) (magnitude : Nat) : Int :=
  if negative then -(magnitude : Int) else magnitude

/-! ## Fields -/

/-- What is left after the zeros and underscores at the start of a number, of which `last` is the
last one so far. It is kept where the number ends or a fraction begins. Only a digit, a minus or a
fraction may come next. -/
def afterZeros? (last : Char) : Text → Option Text
  | [] => some [last]
  | character :: rest =>
      if character = '0' || character = '_' then afterZeros? character rest
      else if character = '-' || character.isDigit then some (character :: rest)
      else if character = '.' then some (last :: character :: rest)
      else none

/-- The text without the zeros in front, if a digit or a minus comes first. -/
def withoutZeros? : Text → Option Text
  | '0' :: rest => afterZeros? '0' rest
  | first :: rest => if first = '-' || first.isDigit then some (first :: rest) else none
  | [] => none

/-- The text without the plus in front, if no minus follows it. -/
def withoutPlus? : Text → Option Text
  | '+' :: '-' :: _ => none
  | '+' :: rest => some rest
  | text => some text

/-- The text without the point and the zeros after it, if there is nothing else after it. -/
def withoutZeroFraction (text : Text) : Text :=
  let whole := Text.before "." text
  let fraction := text.drop (whole.length + 1)
  if !fraction.isEmpty && fraction.all (· == '0') then whole else text

/-- The text without its underscores, if each stands alone and none stands at an end. -/
def ungrouped (text : Text) : Text :=
  if text.head? == some '_' || text.getLast? == some '_' || text.contains "__" then text
  else text.filter (· != '_')

/-- The integer that a minus, if there is one, and ASCII digits spell. Zeros in front are refused,
and the limit counts the minus. -/
def plain (text : Text) : Except SpellingFault Int :=
  let body := if text.head? == some '-' then text.drop 1 else text
  let digits := body.takeWhile Char.isDigit
  let unread := body.length - digits.length
  if body == ['0'] then .ok 0
  else if digits.isEmpty || digits.head? == some '0' then .error .notInteger
  else if digitLimit < text.length - unread then .error (.tooLong digits.length)
  else if 0 < unread then .error .notInteger
  else .ok (signed (body.length < text.length) (groupedValue 10 digits))

/-- The integer that a field spells. -/
def field (text : Text) : Except SpellingFault Int :=
  match (withoutPlus? (text.trimBy isUnicodeSpace)).bind withoutZeros? with
  | some number => plain (ungrouped (withoutZeroFraction number))
  | none => .error .notInteger

/-! ## Entries -/

/-- A text without its sign, and whether the sign is a minus. -/
def takeSign : Text → Bool × Text
  | '-' :: rest => (true, rest)
  | '+' :: rest => (false, rest)
  | unsigned => (false, unsigned)

/-- The value of digits of any script. -/
def digitsValue (digits : Text) : Nat :=
  digits.foldl (fun value digit => value * 10 + (digitValue? digit).getD 0) 0

/-- The integer that an entry spells: single underscores may stand between its digits. The digits
are counted before what follows them is looked at. -/
def entry (text : Text) : Except SpellingFault Int :=
  let (negative, body) := takeSign (text.trimBy isUnicodeSpace)
  let isDigit (character : Char) : Bool := (digitValue? character).isSome
  let run := body.takeWhile fun character => isDigit character || character == '_'
  let digits := run.filter isDigit
  if groupedDigits isDigit run < run.length || run.isEmpty then .error .notInteger
  else if digitLimit < digits.length then .error (.tooLong digits.length)
  else if run.length < body.length then .error .notInteger
  else .ok (signed negative (digitsValue digits))

/-- Zeros and underscores in front of a field's number, and a minus after them, do no harm. -/
example : (["00_5", "0__-5", " +5.00 ", "-05", "5."].map fun text => (field text.toList).toOption) =
    [some 5, some (-5), some 5, none, none] := by decide +kernel

/-- The digits of an entry may come from any script. -/
example : (["-1_٠", "1__0", "5.0"].map fun text => (entry text.toList).toOption) =
    [some (-10), none, none] := by decide +kernel

end Spelled

end Segmentation
