import Mathlib.Data.List.DropRight
import Segmentation.Indentation.Declarations
import Segmentation.Proofs.Text.WholeLines

/-!
# Declarations as they are written

Declarations in their usual form, made of parts that carry the rules they are written by, and what
is expected to be found for them. A block consists of decorator lines and a heading at the same
indentation, and of a body below them. Headings may go on over several lines inside parentheses.
Whatever else is on the lines of a block, no line but those of decorators and the first one of the
heading may look as if a declaration began there.
-/

namespace Segmentation.Indentation

/-- What holds for the characters of a text is decided by going through the text, and not through
all the characters that there are. -/
instance (text : Text) (holds : Char → Prop) [DecidablePred holds] :
    Decidable (∀ character ∈ text, holds character) :=
  List.decidableBAll holds text

/-- Parentheses that match each other and `depth` of them that are open before, never open more than
`limit` deep. -/
structure Balanced (limit depth : Nat) (text : Text) : Prop where
  closed : depth + text.count '(' = text.count ')'
  opened : ∀ position ≤ text.length,
    (text.take position).count ')' ≤ depth + (text.take position).count '('
  shallow : ∀ position ≤ text.length,
    depth + (text.take position).count '(' ≤ (text.take position).count ')' + limit

instance (limit depth : Nat) (text : Text) : Decidable (Balanced limit depth text) :=
  decidable_of_iff (depth + text.count '(' = text.count ')' ∧
    (∀ position ≤ text.length,
      (text.take position).count ')' ≤ depth + (text.take position).count '(') ∧
    ∀ position ≤ text.length,
      depth + (text.take position).count '(' ≤ (text.take position).count ')' + limit)
    ⟨fun ⟨closed, opened, shallow⟩ => ⟨closed, opened, shallow⟩,
      fun ⟨closed, opened, shallow⟩ => ⟨closed, opened, shallow⟩⟩

/-- Whether a line looks as if a declaration began on it. -/
def looksDeclared (line : Text) : Bool :=
  Text.startsWithAny (line.dropWhile isIndent) ["@", "def", "async", "class"]

namespace Written

/-- A list in parentheses, or nothing where there is no list. -/
def parenthesised : Option Text → Text
  | none => []
  | some list => '(' :: (list ++ [')'])

/-! ## Decorators -/

/-- A decorator: a dotted name, arguments and a comment, all on one line. -/
structure Decorator where
  name : Text
  arguments : Option Text := none
  /-- The blanks between the decorator and its comment. -/
  gap : Text := []
  comment : Option Text := none
  name_ne_nil : name ≠ []
  name_dotted : ∀ character ∈ name, isWord character || character == '.'
  arguments_unbroken : ∀ character ∈ arguments.getD [], Text.isLineBreak character = false
  gap_blank : ∀ character ∈ gap, isIndent character
  comment_unbroken : ∀ character ∈ comment.getD [], Text.isLineBreak character = false

/-- What follows a decorator on its line. -/
def Decorator.remainder (decorator : Decorator) : Text :=
  decorator.gap ++
    match decorator.comment with
    | none => []
    | some comment => '#' :: comment

/-- The line of a decorator without its indentation. -/
def Decorator.line (decorator : Decorator) : Text :=
  '@' :: (decorator.name ++ (parenthesised decorator.arguments ++ decorator.remainder))

/-! ## Headings -/

/-- The heading of a function. -/
structure FunctionHeading where
  isAsync : Bool
  name : Text
  parameters : Text
  result : Option Text := none
  name_ne_nil : name ≠ []
  name_word : ∀ character ∈ name, isWord character
  parameters_balanced : Balanced 2 0 parameters
  result_line : ∀ character ∈ result.getD [], character ≠ ':' ∧ character ≠ '\n'

/-- The heading of a class. -/
structure ClassHeading where
  name : Text
  bases : Option Text := none
  name_ne_nil : name ≠ []
  name_word : ∀ character ∈ name, isWord character
  bases_ne_nil : bases ≠ some []
  bases_flat : ')' ∉ bases.getD []

inductive Heading where
  | function (heading : FunctionHeading)
  | class_ (heading : ClassHeading)

namespace Heading

def kind : Heading → HeaderKind
  | function _ => .functionHeader
  | class_ _ => .classHeader

def name : Heading → Text
  | function heading => heading.name
  | class_ heading => heading.name

def isAsync : Heading → Bool
  | function heading => heading.isAsync
  | class_ _ => false

/-- The words in front of the name. -/
def words : Heading → String
  | function heading => if heading.isAsync then "async def " else "def "
  | class_ _ => "class "

/-- The list behind the name. -/
def list : Heading → Option Text
  | function heading => some heading.parameters
  | class_ heading => heading.bases

/-- What stands between the list and the colon. -/
def result : Heading → Text
  | function heading =>
      match heading.result with
      | none => []
      | some result => " -> ".toList ++ result
  | class_ _ => []

/-- The heading without its result, as it stands for the declaration. -/
def signature (heading : Heading) : Text :=
  heading.words.toList ++ (heading.name ++ parenthesised heading.list)

/-- The heading up to and with its colon. -/
def text (heading : Heading) : Text :=
  heading.signature ++ (heading.result ++ [':'])

end Heading

/-! ## Blocks -/

/-- A declaration whose first lines have the given indentation. -/
structure Block (indent : Text) where
  decorators : List Decorator
  heading : Heading
  /-- What follows the colon on its line. -/
  trailer : Text
  body : List Text
  trailer_line : '\n' ∉ trailer
  body_line : ∀ line ∈ body, '\n' ∉ line
  body_inside : ∀ line ∈ body, isSkippable line ∨ indent.length < indentWidth line
  heading_plain : ∀ line ∈ (indent ++ (heading.text ++ trailer)).lines.tail,
    looksDeclared line = false
  body_plain : ∀ line ∈ body, looksDeclared line = false

namespace Block

variable {indent : Text}

/-- The lines from the first decorator to the one with the colon. -/
def headLines (block : Block indent) : List Text :=
  block.decorators.map (indent ++ ·.line) ++
    Text.lines (indent ++ (block.heading.text ++ block.trailer))

/-- The text of a block, with a newline behind each line. -/
def text (block : Block indent) : Text :=
  Text.unlines (block.headLines ++ block.body)

/-- The body without the blank and comment lines at its end. -/
def code (block : Block indent) : List Text :=
  block.body.rdropWhile isSkippable

/-- What is expected to be found for a block that stands between two texts: all of its lines up to
the last one with code. Only for documentation it counts what follows the block. -/
def chunk (block : Block indent) (before after : Text) : Chunk :=
  let content := Text.joinLines (block.headLines ++ block.code)
  { kind := block.heading.kind.chunkKind
    name := block.heading.name
    startLine := before.newlines + 1
    endLine := before.newlines + (block.headLines ++ block.code).length
    startOffset := before.length
    endOffset := before.length + content.length
    content
    signature := some block.heading.signature
    docComment := docString? (block.body ++ after.lines) 0
    decorators := block.decorators.map (·.line.trim)
    isAsync := block.heading.isAsync }

end Block

/-- The text of blocks one after the other. -/
def source {indent : Text} (blocks : List (Block indent)) : Text :=
  blocks.flatMap Block.text

/-- What is expected to be found for blocks that follow the given text. -/
def chunksFrom {indent : Text} (before : Text) : List (Block indent) → List Chunk
  | [] => []
  | block :: others =>
      block.chunk before (source others) :: chunksFrom (before ++ block.text) others

end Written

end Segmentation.Indentation
