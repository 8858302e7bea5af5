/-!
# Rules of a grammar

A grammar is data: every variable is defined by a rule, and a rule is put together from words, signs
and other tokens, from variables, and from marks that say how strongly a rule binds, to which side
it groups, and what its parts are called in a tree.

A variable whose name begins with an underscore leaves no node in a tree, and neither does one that
only sorts other variables into kinds.
-/

namespace Segmentation.Lr

/-- How strongly a rule binds: not said, by a number, or by a name that the grammar orders among
others. -/
inductive Rank where
  | unsaid
  | level (value : Int)
  | named (name : String)
  deriving DecidableEq, Repr, Inhabited

/-- The side to which a rule groups where it meets itself. -/
inductive Side where
  | left
  | right
  deriving DecidableEq, Repr

/-- Another name for a part of a rule. -/
structure Alias where
  type : String
  isNamed : Bool := true
  deriving DecidableEq, Repr

/-- The rule of a variable. -/
inductive Rule where
  /-- Reads nothing. -/
  | nothing
  /-- A fixed word or sign. -/
  | literal (characters : String)
  /-- A token of the given name that is no fixed word or sign. -/
  | token (name : String)
  | variable (name : String)
  | seq (first second : Rule)
  | either (first second : Rule)
  | many1 (item : Rule)
  | ranked (rank : Rank) (rule : Rule)
  | grouped (side : Side) (rule : Rule)
  /-- Of two trees for one text, the one with more weight is taken. -/
  | weighed (weight : Int) (rule : Rule)
  /-- Says which part the rule plays in the node around it. -/
  | field (name : String) (rule : Rule)
  | renamed (name : Alias) (rule : Rule)
  /-- Takes reserved words for names. -/
  | unreserved (rule : Rule)
  deriving DecidableEq, Repr

namespace Rule

/-- The rules one after another. -/
def all : List Rule → Rule
  | [] => nothing
  | [rule] => rule
  | rule :: others => seq rule (all others)

/-- One of the rules; there has to be one. -/
def any : List Rule → Rule
  | [] => nothing
  | [rule] => rule
  | rule :: others => either rule (any others)

/-- The rule, or nothing. -/
def optional (rule : Rule) : Rule :=
  either rule nothing

/-- The rule any number of times. -/
def many (rule : Rule) : Rule :=
  optional (many1 rule)

/-- Items with a separator between each and the next. -/
def separated (separator item : Rule) : Rule :=
  seq item (many (seq separator item))

end Rule

/-- An entry of an order of strengths: a name for a rank, or a variable whose own rules are
meant. -/
inductive Strength where
  | rank (name : String)
  | variable (name : String)
  deriving DecidableEq, Repr

/-- A grammar as it is written down. -/
structure Grammar where
  /-- The variables with their rules; the first one stands for a whole text. -/
  definitions : List (String × Rule)
  /-- The variables that are replaced by what they stand for wherever they are used. -/
  inlined : List String
  /-- The variables that only sort others. -/
  kinds : List String
  /-- The tokens that may stand anywhere and belong to no rule. -/
  extras : List String
  /-- Orders of strengths, each from the strongest to the weakest. -/
  orders : List (List Strength)

end Segmentation.Lr
