/-!
# Letter case

Lower and upper case, as far as names need them: for ASCII, for the letters of Latin-1, and for the
characters outside of these whose other case is an ASCII letter.
-/

namespace Segmentation

/-- A character in lower case. The signs for kelvin and angstrom are letters, too. -/
def lowerCase (character : Char) : Char :=
  let code := character.toNat
  if character = '\u212a' then 'k'
  else if character = '\u212b' then 'å'
  else if 0xc0 ≤ code ∧ code ≤ 0xde ∧ code ≠ 0xd7 then Char.ofNat (code + 32)
  else character.toLower

/-- A character in upper case. The dotless i and the long s are letters, too. -/
def upperCase (character : Char) : Char :=
  if character = '\u0131' then 'I'
  else if character = '\u017f' then 'S'
  else character.toUpper

example : "ÉK-\u212a×".toList.map lowerCase = "ék-k×".toList := by decide +kernel

end Segmentation
