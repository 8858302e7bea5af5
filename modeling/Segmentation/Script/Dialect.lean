import Segmentation.Language
import Segmentation.Lr.Rule

/-!
# Dialects

What tells one script grammar from another, and short forms for the rules of all of them.
-/

namespace Segmentation.Script

/-- What tells one script grammar from another: whether there are types, and whether an angle
bracket may open markup in the place of a value. -/
structure Dialect where
  isTyped : Bool
  hasMarkup : Bool

namespace Dialect

def javascript : Dialect := ⟨false, true⟩

def typescript : Dialect := ⟨true, false⟩

def tsx : Dialect := ⟨true, true⟩

end Dialect

/-- A rule of a script grammar. -/
abbrev Rule := Lr.Rule

/-- Definitions of variables of a script grammar. -/
abbrev Definitions := List (String × Rule)

/-- A fixed word or sign stands for the rule that reads it. -/
instance : Coe String Rule := ⟨.literal⟩

/-- The rule of a variable. -/
def the (name : String) : Rule := .variable name

/-- One of several fixed words or signs. -/
def oneOf (words : List String) : Rule :=
  .any (words.map .literal)

/-- A rule that leaves a named node of another type. -/
def shownAs (type : String) (rule : Rule) : Rule :=
  .renamed ⟨type, true⟩ rule

/-- Items between commas, of which there is at least one. -/
def listed (item : Rule) : Rule :=
  .separated "," item

/-- Items between commas, of which there may be none. -/
def perhapsListed (item : Rule) : Rule :=
  .optional (listed item)

/-- A rule with a rank that has a name. -/
def ranked (name : String) (rule : Rule) : Rule :=
  .ranked (.named name) rule

/-- A rule that groups to the left. -/
def leftward (rule : Rule) : Rule :=
  .ranked (.level 0) (.grouped .left rule)

/-- A rule that groups to the right. -/
def rightward (rule : Rule) : Rule :=
  .ranked (.level 0) (.grouped .right rule)

/-! ## Tokens that are no fixed words or signs -/

/-- A name. -/
def identifier : Rule := .token "identifier"

/-- A semicolon that is inserted. -/
def insertedSemicolon : Rule := .token "_automatic_semicolon"

/-- A semicolon that is written or inserted. -/
def semicolon : Rule := .either insertedSemicolon ";"

end Segmentation.Script
