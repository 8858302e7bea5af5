import Segmentation.Text.Basic

/-!
# Indented blocks

A block consists of the lines below its header that are indented deeper than the header. Blank lines
and comment lines belong to whatever surrounds them: they never end a block, and a block does not
end with one. A block may open with a documentation string in triple quotes.
-/

namespace Segmentation.Indentation

/-- How far a line is indented: the number of its leading blanks. -/
def indentWidth (line : Text) : Nat :=
  (line.takeWhile isBlank).length

/-- A line that neither opens nor ends anything: it is blank or holds only a comment. -/
def isSkippable (line : Text) : Bool :=
  line.trim.isEmpty || line.trim.startsWith "#"

/-- Whether a line may stand inside a block whose header is indented by `baseIndent`. -/
def staysInside (baseIndent : Int) (line : Text) : Bool :=
  isSkippable line || decide (baseIndent < indentWidth line)

/-- The lines of the block that starts at the first of `lines`, without the blank and comment lines
at its end. -/
def blockLines (baseIndent : Int) (lines : List Text) : List Text :=
  ((lines.takeWhile (staysInside baseIndent)).reverse.dropWhile isSkippable).reverse

/-- The index of the last line of the block whose body starts at line `bodyStart`, or the index
before `bodyStart` when the body is empty. -/
def blockEnd (lines : List Text) (bodyStart : Nat) (baseIndent : Int) : Int :=
  (bodyStart + (blockLines baseIndent (lines.drop bodyStart)).length : Int) - 1

/-! ## Documentation strings -/

/-- How many lines of a body are looked at for a documentation string. -/
def docStringLookahead : Nat := 5

/-- A letter that may stand before the quotes of a string. -/
def isStringLetter (character : Char) : Bool :=
  "rRuUbBfF".toList.contains character

/-- The triple quote that opens a string at the start of a trimmed line, after at most two string
letters, and the text after it. -/
def openingQuote? (line : Text) : Option (String × Text) :=
  let letters := line.takeWhile isStringLetter
  let rest : Text := line.dropWhile isStringLetter
  if 2 < letters.length then none
  else if rest.startsWith "\"\"\"" then some ("\"\"\"", rest.drop 3)
  else if rest.startsWith "'''" then some ("'''", rest.drop 3)
  else none

/-- The lines up to the first one that holds the closing quote, cut off before that quote. -/
def linesToQuote? (quote : String) : List Text → Option (List Text)
  | [] => none
  | line :: others =>
      match Text.cutAt? quote line with
      | some (head, _) => some [head]
      | none => (linesToQuote? quote others).map (line :: ·)

/-- A text trimmed, or nothing when only blanks are left. -/
def nonblank? (text : Text) : Option Text :=
  let trimmed := text.trim
  if trimmed.isEmpty then none else some trimmed

/-- The documentation string among the first `budget` lines of a body. Only blank and comment lines
may stand before it; a string that is never closed is none. -/
def docStringWithin (budget : Nat) : List Text → Option Text
  | [] => none
  | line :: others =>
      match budget with
      | 0 => none
      | budget + 1 =>
          match openingQuote? line.trim with
          | some (quote, head) =>
              (linesToQuote? quote (head :: others)).bind fun collected =>
                nonblank? (Text.joinLines collected)
          | none => if isSkippable line then docStringWithin budget others else none

/-- The documentation string of the body that starts at line `bodyStart`. -/
def docString? (lines : List Text) (bodyStart : Nat) : Option Text :=
  docStringWithin docStringLookahead (lines.drop bodyStart)

end Segmentation.Indentation
