import Segmentation.Text.Basic
import Segmentation.Text.Case
import Segmentation.Text.Emoji.Flags
import Segmentation.Text.Emoji.People
import Segmentation.Text.Emoji.Things

/-!
# Pictures by their names

Texts for people may hold codes for pictures: a name between two colons. The name of a picture of
people may be followed by a tone of skin, and any name by the variant that is wanted, as a
character of the text or as a picture. Colons around anything else are ordinary text.
-/

namespace Segmentation

namespace Emoji

/-- The picture with a name in a table. -/
def inTable? (table : String) (name : Text) : Option Text :=
  (table.splitOn ";").findSome? fun entry =>
    match Text.splitBlanks entry.toList with
    | picture :: names => if names.contains name then some picture else none
    | [] => none

/-- The endings of names that stand for tones of skin. -/
def tones : List (String × Char) :=
  [("_light_skin_tone", '🏻'), ("_medium-light_skin_tone", '🏼'), ("_medium_skin_tone", '🏽'),
    ("_medium-dark_skin_tone", '🏾'), ("_dark_skin_tone", '🏿')]

/-- A picture in a tone of skin, which comes after the first character. -/
def inTone (tone : Char) : Text → Text
  | [] => []
  | first :: rest => first :: tone :: (if rest.head? == some '\ufe0f' then rest.drop 1 else rest)

/-- The picture of people with a name that ends with a tone of skin. -/
def toned? (name : Text) : Option Text :=
  tones.findSome? fun (ending, tone) =>
    if ending.toList.isSuffixOf name then
      (inTable? people (name.take (name.length - ending.length))).map (inTone tone)
    else none

/-- The picture with a name, in any case of letters. -/
def ofName? (name : Text) : Option Text :=
  let name := name.map lowerCase
  ([things, people, flags].findSome? (inTable? · name)).or (toned? name)

/-- The endings of codes: with the variant that is wanted, or without. -/
def endings : List (String × Text) :=
  [("-emoji:", ['\ufe0f']), ("-text:", ['\ufe0e']), (":", [])]

/-- A code after its first colon: its name, the character for its variant, and its length. -/
def code? : Text → Option (Text × Text × Nat)
  | [] => none
  | character :: rest =>
      match endings.find? fun ending => Text.startsWith (character :: rest) ending.1 with
      | some (ending, variant) => some ([], variant, ending.length)
      | none =>
          if isBlank character then none
          else
            (code? rest).map fun (name, variant, length) => (character :: name, variant, length + 1)

end Emoji

/-- The text with pictures for their codes. A code without a picture is passed over as a whole. -/
def Text.pictured (text : Text) : Text :=
  match text with
  | [] => []
  | character :: rest =>
      match if character = ':' then Emoji.code? rest else none with
      | none => character :: pictured rest
      | some (name, variant, length) =>
          let shown :=
            match Emoji.ofName? name with
            | some picture => picture ++ variant
            | none => character :: rest.take length
          shown ++ pictured (rest.drop length)
termination_by text.length
decreasing_by all_goals simp_wf; try omega

end Segmentation
