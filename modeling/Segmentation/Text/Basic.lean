import Segmentation.Text.Word

/-!
# Text

A source file is the list of its code points. Positions, sizes and cuts are all counted in code
points, so `slice` is the one place where a position turns into a piece of text.

Lines are the pieces between newlines: there is always at least one, and joining them with newlines
gives the text back (`joinLines_lines`). Only the newline ends a line here; `lineBreakPieces` is the
wider notion that also knows the other Unicode line breaks.
-/

namespace Segmentation

/-- A text is the list of its code points. -/
abbrev Text := List Char

namespace Text

/-! ## Fixed words at the ends of a text -/

/-- Whether the text begins with the given word. -/
def startsWith (text : Text) (word : String) : Bool :=
  word.toList.isPrefixOf text

/-- Whether the text begins with one of the given words. -/
def startsWithAny (text : Text) (words : List String) : Bool :=
  words.any text.startsWith

/-- Whether the text ends with the given word. -/
def endsWith (text : Text) (word : String) : Bool :=
  word.toList.isSuffixOf text

/-- Whether the text is exactly one of the given words. -/
def isOneOf (text : Text) (words : List String) : Bool :=
  words.any fun word => text == word.toList

/-- The decimal digits of a natural number. -/
def ofNat (number : Nat) : Text :=
  Nat.toDigits 10 number

/-- The decimal digits of an integer, after a minus sign when it is negative. -/
def ofInt (number : Int) : Text :=
  if number < 0 then '-' :: ofNat number.natAbs else ofNat number.natAbs

/-! ## Trimming -/

/-- The text without its leading blanks. -/
def trimStart (text : Text) : Text :=
  text.dropWhile isBlank

/-- The text without its trailing blanks. -/
def trimEnd (text : Text) : Text :=
  (text.reverse.dropWhile isBlank).reverse

/-- The text without the characters of a class at both of its ends. -/
def trimBy (accepts : Char → Bool) (text : Text) : Text :=
  ((text.dropWhile accepts).reverse.dropWhile accepts).reverse

/-- The text without the blanks at both of its ends. -/
def trim (text : Text) : Text :=
  text.trimStart.trimEnd

/-! ## Cutting -/

/-- The text up to the first occurrence of `mark`, and the text after that occurrence. -/
def cutAt? (mark : String) : Text → Option (Text × Text)
  | [] => if mark.toList.isEmpty then some ([], []) else none
  | character :: rest =>
      if Text.startsWith (character :: rest) mark then
        some ([], (character :: rest).drop mark.length)
      else
        (cutAt? mark rest).map fun (before, after) => (character :: before, after)

/-- The text before the first occurrence of `mark`, or the whole text when there is none. -/
def before (mark : String) (text : Text) : Text :=
  match cutAt? mark text with
  | some (head, _) => head
  | none => text

/-- Whether `mark` occurs in the text. -/
def contains (text : Text) (mark : String) : Bool :=
  (cutAt? mark text).isSome

/-- Where a bound falls in a text of `length` characters. A negative bound counts back from the
end; a bound outside the text falls on the nearer end. -/
def clamp (length : Nat) (bound : Int) : Nat :=
  if bound < 0 then (bound + length).toNat else min bound.toNat length

/-- The characters from `start` up to, and without, `stop`. -/
def slice (text : Text) (start stop : Int) : Text :=
  let first := clamp text.length start
  (text.drop first).take (clamp text.length stop - first)

/-- Between bounds that are positions, a slice is what lies between them. -/
theorem slice_natCast (text : Text) (start stop : Nat) :
    text.slice start stop = (text.drop start).take (stop - start) := by
  have nonneg (bound : Nat) : ¬(bound : Int) < 0 := by omega
  simp only [slice, clamp, nonneg, if_false, Int.toNat_natCast]
  rcases Nat.le_total start text.length with inside | outside
  · rw [Nat.min_eq_left inside]
    rcases Nat.le_total stop text.length with low | high
    · rw [Nat.min_eq_left low]
    · rw [Nat.min_eq_right high, List.take_of_length_le (by simp),
        List.take_of_length_le (by simp; omega)]
  · simp [Nat.min_eq_right outside, List.drop_eq_nil_of_le outside]

/-! ## Lines -/

/-- The number of newlines in the text. -/
def newlines (text : Text) : Nat :=
  text.count '\n'

/-- The pieces between the newlines of a text, from its first to its last. -/
def lines : Text → List Text
  | [] => [[]]
  | character :: rest =>
      if character = '\n' then [] :: lines rest
      else
        match lines rest with
        | [] => [[character]]
        | line :: others => (character :: line) :: others

/-- The lines with a newline between each and the next. -/
def joinLines : List Text → Text
  | [] => []
  | [line] => line
  | line :: next :: others => line ++ '\n' :: joinLines (next :: others)

/-- A text has at least one line. -/
theorem lines_ne_nil (text : Text) : lines text ≠ [] := by
  induction text with
  | nil => simp [lines]
  | cons character rest ih =>
      unfold lines
      split
      · simp
      · cases equal : lines rest with
        | nil => exact absurd equal ih
        | cons line others => simp

theorem length_lines_pos (text : Text) : 0 < (lines text).length :=
  List.length_pos_iff.2 (lines_ne_nil text)

/-- Joining the lines of a text gives the text back. -/
theorem joinLines_lines (text : Text) : joinLines (lines text) = text := by
  induction text with
  | nil => rfl
  | cons character rest ih =>
      unfold lines
      cases equal : lines rest with
      | nil => exact absurd equal (lines_ne_nil rest)
      | cons line others =>
          rw [equal] at ih
          split
          · next newline => simp [joinLines, ih, newline]
          · cases others with
            | nil => simpa [joinLines] using ih
            | cons next others => simpa [joinLines] using ih

/-- A text has one line more than it has newlines. -/
theorem length_lines (text : Text) : (lines text).length = text.newlines + 1 := by
  induction text with
  | nil => rfl
  | cons character rest ih =>
      unfold lines
      cases equal : lines rest with
      | nil => exact absurd equal (lines_ne_nil rest)
      | cons line others =>
          rw [equal] at ih
          split
          · next newline =>
              subst newline
              simp only [newlines, List.length_cons, List.count_cons_self] at ih ⊢
              omega
          · next other =>
              simp only [newlines, List.length_cons] at ih ⊢
              rw [List.count_cons_of_ne (by simpa using other)]
              exact ih

/-- A character that ends a line in the wide sense: the newline, the carriage return, the vertical
tab, the form feed, the information separators above the unit separator, and the line breaks of
Unicode. -/
def isLineBreak (character : Char) : Bool :=
  let code := character.toNat
  (10 ≤ code && code ≤ 13) || (28 ≤ code && code ≤ 30) || code == 0x85 || code == 0x2028 ||
    code == 0x2029

/-- The pieces that the line breaks of a text end; a carriage return and the newline after it are
one break, and nothing follows a break at the very end. -/
def lineBreakPieces (text : Text) : List Text :=
  go [] text
where
  go (piece : Text) : Text → List Text
    | [] => if piece.isEmpty then [] else [piece.reverse]
    | '\r' :: '\n' :: rest => piece.reverse :: go [] rest
    | character :: rest =>
        if isLineBreak character then piece.reverse :: go [] rest else go (character :: piece) rest

/-- The words between the blanks of a text. -/
def splitBlanks (text : Text) : List Text :=
  go [] text
where
  go (word : Text) : Text → List Text
    | [] => if word.isEmpty then [] else [word.reverse]
    | character :: rest =>
        if isBlank character then
          if word.isEmpty then go [] rest else word.reverse :: go [] rest
        else go (character :: word) rest

end Text

end Segmentation
