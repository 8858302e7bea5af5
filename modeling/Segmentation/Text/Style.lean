import Segmentation.Text.Basic
import Segmentation.Text.Case

/-!
# Styles

The names of tags describe styles: attributes, a colour, a colour behind the text and a link, as
words in any order. Two descriptions of one style have the same normal form, which lists the words
in a fixed order and spells each attribute by its full name. A name that describes no style is its
own normal form, but for blanks around it and the case of its letters.
-/

namespace Segmentation

/-- What a description of a style says. -/
structure Style where
  /-- The attributes that are named, and whether they are wanted. -/
  attributes : List (String × Bool) := []
  colour : Option Text := none
  background : Option Text := none
  link : Option Text := none
  deriving DecidableEq, Repr

namespace Style

/-- The attributes in the order of the normal form. -/
def attributeNames : List String :=
  ["bold", "dim", "italic", "underline", "blink", "blink2", "reverse", "conceal", "strike",
    "underline2", "frame", "encircle", "overline"]

/-- The short names of attributes. -/
def shortNames : List (String × String) :=
  [("b", "bold"), ("d", "dim"), ("i", "italic"), ("u", "underline"), ("r", "reverse"),
    ("c", "conceal"), ("s", "strike"), ("uu", "underline2"), ("o", "overline")]

/-- The full name of the attribute that a word names. -/
def attribute? (word : Text) : Option String :=
  let word := String.ofList word
  (shortNames.lookup word).or (attributeNames.find? (· == word))

/-! ## Colours -/

/-- The colours with one name. -/
def plainColours : List String :=
  ["black", "blue_violet", "bright_black", "bright_blue", "bright_cyan", "bright_green",
    "bright_magenta", "bright_red", "bright_white", "bright_yellow", "cadet_blue",
    "cornflower_blue", "dark_blue", "dark_cyan", "dark_goldenrod", "dark_green", "dark_khaki",
    "dark_magenta", "dark_red", "dark_turquoise", "dark_violet", "default", "green_yellow",
    "light_coral", "light_green", "light_sea_green", "light_slate_blue", "light_slate_gray",
    "light_slate_grey", "medium_spring_green", "medium_turquoise", "medium_violet_red",
    "navy_blue", "rosy_brown", "sandy_brown", "tan", "violet", "white"]

/-- The colours whose names end with a number, with the numbers in ascending order; zero also stands
for the name without a number, except after the two names of grey. -/
def numberedColours : List (String × List Nat) :=
  [("red", [0, 1, 3]), ("green", [0, 1, 3, 4]), ("yellow", [0, 1, 2, 3, 4]), ("blue", [0, 1, 3]),
    ("magenta", [0, 1, 2, 3]), ("cyan", [0, 1, 2, 3]), ("purple", [0, 3, 4]),
    ("medium_purple", [0, 1, 2, 3, 4]), ("dark_sea_green", [0, 1, 2, 3, 4]),
    ("steel_blue", [0, 1, 3]), ("indian_red", [0, 1]), ("hot_pink", [0, 2, 3]),
    ("medium_orchid", [0, 1, 3]), ("dark_orange", [0, 3]), ("light_steel_blue", [0, 1, 3]),
    ("orchid", [0, 1, 2]), ("deep_sky_blue", [1, 2, 3, 4]), ("dodger_blue", [1, 2, 3]),
    ("spring_green", [1, 2, 3, 4]), ("turquoise", [2, 4]), ("deep_pink", [1, 2, 3, 4]),
    ("orange", [1, 3, 4]), ("slate_blue", [1, 3]), ("royal_blue", [1]),
    ("chartreuse", [1, 2, 3, 4]), ("pale_turquoise", [1, 4]), ("sky_blue", [1, 2, 3]),
    ("pale_green", [1, 3]), ("sea_green", [1, 2, 3]), ("aquamarine", [1, 3]),
    ("dark_slate_gray", [1, 2, 3]), ("light_pink", [1, 3, 4]), ("plum", [1, 2, 3, 4]),
    ("wheat", [1, 4]), ("dark_olive_green", [1, 2, 3]), ("light_sky_blue", [1, 3]),
    ("light_salmon", [1, 3]), ("gold", [1, 3]), ("navajo_white", [1, 3]), ("light_cyan", [1, 3]),
    ("pink", [1, 3]), ("light_goldenrod", [1, 2, 3]), ("misty_rose", [1, 3]), ("thistle", [1, 3]),
    ("khaki", [1, 3]), ("light_yellow", [3]), ("honeydew", [2]), ("orange_red", [1]),
    ("salmon", [1]), ("pale_violet_red", [1]), ("cornsilk", [1])]

/-- The numbers of the shades of grey. -/
def greys : List Nat :=
  [0, 3, 7, 11, 15, 19, 23, 27, 30, 35, 37, 39, 42, 46, 50, 53, 54, 58, 62, 63, 66, 69, 70, 74, 78,
    82, 84, 85, 89, 93, 100]

/-- Whether a word is the name of a colour. -/
def isNamedColour (word : String) : Bool :=
  plainColours.contains word ||
    numberedColours.any (fun (name, numbers) => numbers.any fun number =>
      word == if number = 0 then name else name ++ toString number) ||
    greys.any fun number => word == "grey" ++ toString number || word == "gray" ++ toString number

/-- Whether a text has at most three digits, at least one, and a value below 256. -/
def isByte (digits : Text) : Bool :=
  !digits.isEmpty && digits.all Char.isDigit &&
    digits.foldl (fun value digit => value * 10 + (digit.toNat - '0'.toNat)) 0 < 256

/-- The pieces between the commas of a text. -/
def commaPieces : Text → List Text
  | [] => [[]]
  | character :: rest =>
      match commaPieces rest with
      | [] => [[character]]
      | piece :: others =>
          if character = ',' then [] :: piece :: others else (character :: piece) :: others

/-- The inside of a call such as `color(5)`, when a word is one of the given name. -/
def callInside? (name : String) (word : Text) : Option Text :=
  if Text.startsWith word (name ++ "(") && word.getLast? == some ')' then
    some ((word.drop (name.length + 1)).dropLast)
  else none

/-- Whether a word in lower case stands for a colour: a name, a number, or the amounts of red, green
and blue. -/
def isColour (word : Text) : Bool :=
  let isHex (digit : Char) : Bool := digit.isDigit || ('a' ≤ digit && digit ≤ 'f')
  isNamedColour (String.ofList word) ||
    (word.length == 7 && word.head? == some '#' && (word.drop 1).all isHex) ||
    (callInside? "color" word).any (fun inside => inside.length ≤ 3 && isByte inside) ||
    (callInside? "rgb" word).any fun inside =>
      let pieces := commaPieces inside
      pieces.length == 3 && pieces.all isByte

/-! ## Descriptions -/

/-- The style with an attribute wanted or not. What was said about it before is forgotten. -/
def setAttribute (style : Style) (name : String) (wanted : Bool) : Style :=
  { style with attributes := (name, wanted) :: style.attributes.filter (·.1 != name) }

/-- The style after the words of a description, if they describe one. -/
def ofWordsAfter (style : Style) : List Text → Option Style
  | [] => some style
  | [word] =>
      let word := word.map lowerCase
      match attribute? word with
      | some name => some (style.setAttribute name true)
      | none => if isColour word then some { style with colour := some word } else none
  | word :: next :: others =>
      let word := word.map lowerCase
      if word == "on".toList then
        let colour := next.map lowerCase
        if isColour colour then ofWordsAfter { style with background := some colour } others
        else none
      else if word == "not".toList then
        match attribute? next with
        | some name => ofWordsAfter (style.setAttribute name false) others
        | none => none
      else if word == "link".toList then ofWordsAfter { style with link := some next } others
      else
        match attribute? word with
        | some name => ofWordsAfter (style.setAttribute name true) (next :: others)
        | none =>
            if isColour word then ofWordsAfter { style with colour := some word } (next :: others)
            else none

/-- The style that a text describes. -/
def ofText? (text : Text) : Option Style :=
  let words := text.splitBlanks
  if words == ["none".toList] then some {} else ofWordsAfter {} words

/-- The words of the normal form of a style. -/
def words (style : Style) : List Text :=
  let attributeWords (name : String) : List Text :=
    match style.attributes.lookup name with
    | some true => [name.toList]
    | some false => ["not".toList, name.toList]
    | none => []
  let background :=
    match style.background with
    | some colour => ["on".toList, colour]
    | none => []
  let link :=
    match style.link with
    | some target => ["link".toList, target]
    | none => []
  attributeNames.flatMap attributeWords ++ style.colour.toList ++ background ++ link

/-- The normal form of a description. -/
def normalForm (description : Text) : Text :=
  match ofText? description with
  | some style =>
      match style.words with
      | [] => "none".toList
      | words => (words.intersperse [' ']).flatten
  | none => description.trim.map lowerCase

/-- The order of words and the spelling of attributes do not matter. -/
example : normalForm "Red b on RGB(1,2,3)".toList = normalForm "bold red on rgb(1,2,3)".toList := by
  decide +kernel

example : normalForm " a, B".toList = "a, b".toList := by decide +kernel

end Style

end Segmentation
