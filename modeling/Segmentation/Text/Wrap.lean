import Segmentation.Text.Cells

/-!
# Wrapping

Setting a text in lines of at most a given number of columns. Tabs become spaces; lines break before
words; a word that is wider than a line is cut where that is wanted, and else has a line of its own.
-/

namespace Segmentation.Text

/-! ## Tabs -/

/-- The distance between two tab stops. -/
def tabDistance : Nat := 8

/-- The text with spaces in place of its tabs, where `part` is what was read since the last tab, in
reverse, and begins in the given column. A tab takes at least one column and ends at a stop. -/
def withoutTabs (column : Nat) (part : Text) : Text → Text
  | [] => part.reverse
  | '\t' :: rest =>
      let part : Text := part.reverse ++ [' ']
      let reached := column + part.cells
      let missing := (tabDistance - reached % tabDistance) % tabDistance
      part ++ spaces missing ++ withoutTabs (reached + missing) [] rest
  | character :: rest => withoutTabs column (character :: part) rest

/-! ## Words -/

/-- The words of a text; `piece` is read already, in reverse, and `ended` says whether it is a word
with a blank after it. -/
def wordsAfter (piece : Text) (started ended : Bool) : Text → List Text
  | [] => [piece.reverse]
  | character :: rest =>
      if isBlank character then wordsAfter (character :: piece) started started rest
      else if ended then piece.reverse :: wordsAfter [character] true false rest
      else wordsAfter (character :: piece) true false rest

/-- The words of a text, each with the blanks after it, the first one also with those before it. A
text without words counts as one. -/
def words (text : Text) : List Text :=
  wordsAfter [] false false text

/-! ## Lines -/

/-- What happens to a word that is wider than a line. -/
inductive Overflow where
  /-- It is cut into pieces. -/
  | folded
  /-- It is set as a whole, and too long for its line. -/
  | kept
  deriving DecidableEq, Repr

/-- The lines of words of which `line` is set already and takes `taken` columns. -/
def setWords (overflow : Overflow) (width : Nat) (line : Text) (taken : Nat) :
    List Text → List Text
  | [] => [line]
  | word :: others =>
      let needed := word.trimEnd.cells
      if taken + needed ≤ width then
        setWords overflow width (line ++ word) (taken + word.cells) others
      else
        let pieces :=
          match overflow with
          | .folded => if width < needed then chopped width word else [word]
          | .kept => [word]
        let before := if line.isEmpty then [] else [line]
        let last := pieces.getLastD []
        before ++ pieces.dropLast ++ setWords overflow width last last.cells others

/-- A line without the blanks at its end, as far as it has more characters than the width. -/
def cutBlanks (width : Nat) (line : Text) : Text :=
  let blanks := line.length - line.trimEnd.length
  line.take (line.length - min blanks (line.length - width))

/-- The text, which holds no newline, in lines of at most `width` columns. -/
def wrap (overflow : Overflow) (width : Nat) (text : Text) : List Text :=
  (setWords overflow width [] 0 (withoutTabs 0 [] text).words).map (cutBlanks width)

example : wrap .folded 5 "ab cd efghijkl".toList =
    ["ab cd".toList, "efghi".toList, "jkl".toList] := by decide +kernel

example : wrap .kept 5 "a\tbcdefgh".toList = ["a    ".toList, "bcdefgh".toList] := by
  decide +kernel

end Segmentation.Text
