/-!
# Blank characters

The characters that count as white space when a line is trimmed or tested for being empty. The class
is the Unicode one, with the four information separators; it contains neither the zero width space
nor the byte order mark, which are ordinary characters for trimming.
-/

namespace Segmentation

/-- A character that trimming removes: the ASCII blanks and separators, the next-line control, the
no-break space and the Unicode spaces. -/
def isBlank (character : Char) : Bool :=
  let code := character.toNat
  (9 ≤ code && code ≤ 13) || (28 ≤ code && code ≤ 32) || code == 0x85 || code == 0xa0 ||
    code == 0x1680 || (0x2000 ≤ code && code ≤ 0x200a) || code == 0x2028 || code == 0x2029 ||
    code == 0x202f || code == 0x205f || code == 0x3000

/-- A character with the Unicode property of being white space: a blank that is not an information
separator. -/
def isUnicodeSpace (character : Char) : Bool :=
  isBlank character && !(28 ≤ character.toNat && character.toNat ≤ 31)

/-- A character that only indents: a space or a tab. -/
def isIndent (character : Char) : Bool :=
  character == ' ' || character == '\t'

/-- Every character that the core library counts as white space is blank. -/
theorem isBlank_of_isWhitespace {character : Char} (white : character.isWhitespace = true) :
    isBlank character = true := by
  have cases : character = ' ' ∨ character = '\t' ∨ character = '\r' ∨ character = '\n' := by
    simpa [Char.isWhitespace, or_assoc] using white
  rcases cases with rfl | rfl | rfl | rfl <;> decide

end Segmentation
