import Segmentation.Text.Utf8

/-!
# Chunks

A chunk is a contiguous piece of a source with what is known about it. Its content is always the
slice of the source between its offsets; text that makes a later part of a split chunk readable on
its own is kept apart in `heading`, so that the offsets stay exact.
-/

namespace Segmentation

/-- What a chunk holds. -/
inductive ChunkKind where
  | functionDeclaration
  | classDeclaration
  | wholeModule
  | plainText
  | other
  | unparseable
  deriving DecidableEq, Repr

namespace ChunkKind

/-- The name of a kind in answers. -/
def label : ChunkKind → String
  | functionDeclaration => "function"
  | classDeclaration => "class"
  | wholeModule => "module"
  | plainText => "text"
  | other => "other"
  | unparseable => "unparseable"

/-- The kind with the given name. -/
def ofLabel? (label : String) : Option ChunkKind :=
  [functionDeclaration, classDeclaration, wholeModule, plainText, other, unparseable].find?
    (·.label == label)

end ChunkKind

/-- A contiguous piece of a source. Offsets count characters from zero, lines count from one, and
parts count from zero. -/
structure Chunk where
  kind : ChunkKind
  name : Text
  startLine : Int
  endLine : Int
  startOffset : Int
  endOffset : Int
  content : Text
  signature : Option Text := none
  docComment : Option Text := none
  decorators : List Text := []
  isAsync : Bool := false
  isGenerator : Bool := false
  isExported : Bool := false
  isPartial : Bool := false
  partNumber : Int := 0
  totalParts : Int := 1
  parentName : Option Text := none
  /-- Text put in front of the content when the chunk is embedded. -/
  heading : Text := []
  deriving DecidableEq, Repr

namespace Chunk

/-- What stands for the body in the signature of a variable that holds a function. -/
def bodyPlaceholder : String := "\x7b...\x7d"

/-- What is embedded for the chunk: its heading and its content. -/
def text (chunk : Chunk) : Text :=
  chunk.heading ++ chunk.content

/-- The number of characters of the chunk's content. -/
def size (chunk : Chunk) : Nat :=
  chunk.content.length

/-- One chunk that holds a whole source. -/
def wholeSource (kind : ChunkKind) (name : String) (source : Text) : Chunk where
  kind
  name := name.toList
  startLine := 1
  endLine := source.lines.length
  startOffset := 0
  endOffset := source.length
  content := source

/-- The name that parts of the chunk give as their parent's. -/
def parentOfParts (chunk : Chunk) : Text :=
  match chunk.parentName with
  | some (character :: rest) => character :: rest
  | _ => chunk.name

/-- One part of a chunk that is cut into `total` parts. The first part keeps the documentation and
has no heading. -/
def part (chunk : Chunk) (source : Text) (number total : Nat) (startLine endLine : Int)
    (startOffset endOffset : Int) (heading : Text) : Chunk :=
  { chunk with
    startLine, endLine, startOffset, endOffset
    content := Text.slice source startOffset endOffset
    docComment := if number = 0 then chunk.docComment else none
    isPartial := true
    partNumber := number
    totalParts := total
    parentName := some chunk.parentOfParts
    heading := if number = 0 then [] else heading }

end Chunk

/-- Why a source could not be cut. None of these arises for a syntax tree that fits its source and
for sizes that the options allow. -/
inductive ChunkFailure where
  /-- A line was asked for beyond the last one. -/
  | lineOutOfRange
  /-- A size is beyond the range of double precision. -/
  | sizeTooLarge
  /-- A quotient of sizes is beyond the range of double precision. -/
  | quotientTooLarge
  /-- A node of a syntax tree starts or ends inside a character. -/
  | brokenCharacter (fault : Utf8Fault)
  deriving DecidableEq, Repr

/-- The wording of a failure. -/
def ChunkFailure.message : ChunkFailure → Text
  | lineOutOfRange => "list index out of range".toList
  | sizeTooLarge => "int too large to convert to float".toList
  | quotientTooLarge => "cannot convert float infinity to integer".toList
  | brokenCharacter fault => fault.message

end Segmentation
