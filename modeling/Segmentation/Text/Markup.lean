import Segmentation.Text.Emoji
import Segmentation.Text.Style

/-!
# Markup

Texts for people may hold tags in square brackets. A tag opens with a small letter or one of three
marks, so that most bracketed text is no tag; a backslash before a tag makes it ordinary text. A tag
that begins with a slash closes the nearest open one with the same style, or the nearest one at all
when it names no style. Only what remains of a text when its tags are gone matters here, and whether
every closing tag has something to close.
-/

namespace Segmentation

/-- A closing tag without an open one. -/
inductive MarkupFault where
  /-- No tag with the same style is open. -/
  | notOpen (inside : Text) (position : Nat)
  /-- No tag at all is open. -/
  | nothingOpen (position : Nat)
  deriving DecidableEq, Repr

/-- The wording of a fault. -/
def MarkupFault.message : MarkupFault → Text
  | notOpen inside position =>
      "closing tag '[".toList ++ inside ++ "]' at position ".toList ++ Text.ofNat position ++
        " doesn't match any open tag".toList
  | nothingOpen position =>
      "closing tag '[/]' at position ".toList ++ Text.ofNat position ++
        " has nothing to close".toList

namespace Text

/-! ## Pieces -/

/-- A piece of a text: ordinary text, or a tag with the position of its bracket. -/
inductive Piece where
  | plain (text : Text)
  | tag (position : Nat) (inside : Text)
  deriving DecidableEq, Repr

/-- Whether a character may be the first one of a tag. -/
def opensTag (character : Char) : Bool :=
  ('a' ≤ character && character ≤ 'z') || ['#', '/', '@'].contains character

/-- The inside of the tag whose opening bracket is just before the text, if there is a tag. -/
def tagInside? : Text → Option Text
  | [] => none
  | first :: rest =>
      let inside := rest.takeWhile fun character => character != ']' && character != '['
      if opensTag first && rest[inside.length]? == some ']' then some (first :: inside) else none

/-- The pieces of a text from a position on. Right before it are `slashes` backslashes, and before
these the ordinary text `plain`, in reverse. Two backslashes before a tag stand for one, and an odd
one makes the tag ordinary text. -/
def piecesAfter (position slashes : Nat) (plain text : Text) : List Piece :=
  let backslashes (count : Nat) : Text := List.replicate count '\\'
  match text with
  | [] => [.plain (plain.reverse ++ backslashes slashes)]
  | '\\' :: rest => piecesAfter (position + 1) (slashes + 1) plain rest
  | '[' :: rest =>
      match tagInside? rest with
      | none => piecesAfter (position + 1) 0 ('[' :: (backslashes slashes ++ plain)) rest
      | some inside =>
          let tag :=
            if slashes % 2 = 1 then .plain ('[' :: inside ++ [']']) else .tag position inside
          [.plain plain.reverse, .plain (backslashes (slashes / 2)), tag] ++
            piecesAfter (position + inside.length + 2) 0 [] (rest.drop (inside.length + 1))
  | character :: rest =>
      piecesAfter (position + 1) 0 (character :: (backslashes slashes ++ plain)) rest
termination_by text.length
decreasing_by all_goals simp_wf; try omega

/-! ## Tags -/

/-- The styles of the open tags, the nearest first, after one more tag. -/
def afterTag (opened : List Text) (position : Nat) (inside : Text) :
    Except MarkupFault (List Text) :=
  match Text.before "=" inside with
  | '/' :: name =>
      let name := Text.trim name
      if name.isEmpty then
        match opened with
        | [] => .error (.nothingOpen position)
        | _ :: others => .ok others
      else
        let style := Style.normalForm name
        if opened.contains style then .ok (opened.erase style)
        else .error (.notOpen inside position)
  | name => .ok (Style.normalForm name :: opened)

/-- The text with the backslash before every bracket taken away. -/
def unescaped : Text → Text
  | [] => []
  | '\\' :: '[' :: rest => '[' :: unescaped rest
  | character :: rest => character :: unescaped rest

/-- The ordinary text of pieces, after tags of which some are still open. -/
def plainText (opened : List Text) : List Piece → Except MarkupFault Text
  | [] => .ok []
  | .plain text :: others => (plainText opened others).map ((unescaped text).pictured ++ ·)
  | .tag position inside :: others => do
      let opened ← afterTag opened position inside
      plainText opened others

/-! ## What is shown -/

/-- The control characters that are never shown. -/
def isHiddenControl (character : Char) : Bool :=
  [7, 8, 11, 12, 13].contains character.toNat

/-- The text as it is shown: with pictures, without tags and without some control characters. -/
def shown (text : Text) : Except MarkupFault Text :=
  (plainText [] (piecesAfter 0 0 [] text)).map (·.filter (!isHiddenControl ·))

example : (shown "[a].js \\[b] [0] \\[C]".toList).toOption = some ".js [b] [0] [C]".toList := by
  decide +kernel

example : (shown "[b red]x[/red bold][/]".toList).toOption = none := by decide +kernel

end Text

end Segmentation
