import Segmentation.Text.Basic

/-!
# JSON values

The values that records and log lines are made of, and their text. Objects keep the order in which
their members are given. Text is written in ASCII: every other character is escaped by its UTF-16
units.
-/

namespace Segmentation

/-- A JSON value without fractional numbers. -/
inductive Json where
  | null
  | bool (value : Bool)
  | number (value : Int)
  | string (value : Text)
  | array (items : List Json)
  | object (members : List (String × Json))
  deriving Inhabited

namespace Json

/-- A text, or null. -/
def optional : Option Text → Json
  | some text => string text
  | none => null

/-! ## Strings -/

/-- A UTF-16 unit as an escape of four hexadecimal digits. -/
def unitEscape (unit : Nat) : Text :=
  ['\\', 'u', Nat.digitChar (unit / 4096 % 16), Nat.digitChar (unit / 256 % 16),
    Nat.digitChar (unit / 16 % 16), Nat.digitChar (unit % 16)]

/-- A character inside a JSON string. Characters above the basic plane are written as a pair of
surrogates. -/
def escape (character : Char) : Text :=
  let code := character.toNat
  if character = '"' then ['\\', '"']
  else if character = '\\' then ['\\', '\\']
  else if character = '\n' then ['\\', 'n']
  else if character = '\r' then ['\\', 'r']
  else if character = '\t' then ['\\', 't']
  else if code = 8 then ['\\', 'b']
  else if code = 12 then ['\\', 'f']
  else if 32 ≤ code ∧ code < 127 then [character]
  else if code < 0x10000 then unitEscape code
  else
    unitEscape (0xd800 + (code - 0x10000) / 0x400) ++ unitEscape (0xdc00 + (code - 0x10000) % 0x400)

/-- A JSON string in its quotes. -/
def quote (text : Text) : Text :=
  '"' :: (text.flatMap escape ++ ['"'])

/-! ## Layout -/

/-- How the parts of arrays and objects are set: what stands between two items and between a name
and its value, and how far items are indented when each has a line of its own. -/
structure Layout where
  between : String
  afterName : String
  indent : Option Nat

namespace Layout

/-- All on one line. -/
def compact : Layout := ⟨",", ":", none⟩

/-- One item a line, indented by two more for every level. -/
def indented : Layout := ⟨",", ": ", some 2⟩

/-- A line break with the indentation of the given level, where items have lines of their own. -/
def lineBreak (layout : Layout) (level : Nat) : Text :=
  match layout.indent with
  | none => []
  | some width => '\n' :: List.replicate (width * level) ' '

/-- Items in their brackets at the given level. Without items there is nothing to break. -/
def enclose (layout : Layout) (level : Nat) (opening closing : Char) (items : List Text) : Text :=
  match items with
  | [] => [opening, closing]
  | _ =>
      let gap := layout.lineBreak (level + 1)
      opening :: (gap ++ (items.intersperse (layout.between.toList ++ gap)).flatten ++
        layout.lineBreak level ++ [closing])

end Layout

mutual

/-- The text of a value at the given level. -/
def write (layout : Layout) (level : Nat) : Json → Text
  | null => "null".toList
  | bool value => if value then "true".toList else "false".toList
  | number value => Text.ofInt value
  | string value => quote value
  | array items => layout.enclose level '[' ']' (writeItems layout (level + 1) items)
  | object members => layout.enclose level '\x7b' '\x7d' (writeMembers layout (level + 1) members)

/-- The texts of the items of an array. -/
def writeItems (layout : Layout) (level : Nat) : List Json → List Text
  | [] => []
  | item :: others => write layout level item :: writeItems layout level others

/-- The texts of the members of an object. -/
def writeMembers (layout : Layout) (level : Nat) : List (String × Json) → List Text
  | [] => []
  | (name, value) :: others =>
      (quote name.toList ++ layout.afterName.toList ++ write layout level value) ::
        writeMembers layout level others

end

/-- The text of a value on one line. -/
def compress (value : Json) : Text :=
  write .compact 0 value

/-- The text of a value with one item a line. -/
def pretty (value : Json) : Text :=
  write .indented 0 value

end Json

end Segmentation
