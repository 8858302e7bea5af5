import Segmentation.Declarations
import Segmentation.Event
import Segmentation.Indentation.Declarations
import Segmentation.Options
import Segmentation.Path
import Segmentation.Record
import Segmentation.Split

/-!
# Segmenting a source

The language of a source decides how it is cut: into windows when the language is unknown, and into
its declarations otherwise. A declaration that is larger than the options allow is cut further, and
a source that yields no declarations is cut into windows when it is too large as a whole.

The trees of sources with braces come from a reader that is an argument here, so that everything
said about the pipeline holds for every way of making trees.
-/

namespace Segmentation

/-- Gives the syntax tree of a source in some grammar. -/
abbrev TreeReader := Grammar → Text → SyntaxTree

/-- What a step of a run gives, with the events that it tells of. -/
structure Told (α : Type) where
  value : α
  events : List Event

/-! ## Declarations -/

/-- Whether chunks stand for a source that declares nothing. -/
def declareNothing (chunks : List Chunk) : Bool :=
  chunks.any (·.kind == .wholeModule)

/-- The declarations of a source with indented blocks. -/
def Told.ofIndented (source : Text) : Told (List Chunk) :=
  let chunks := Indentation.chunks source
  { value := chunks
    events := if declareNothing chunks then [.nothingDeclaredIndented] else [] }

/-- The events that the outcome of reading a source with braces tells of. -/
def ParseOutcome.events (outcome : ParseOutcome) (grammar : Grammar) : List Event :=
  match outcome.diagnostic with
  | some diagnostic => [.syntaxError grammar diagnostic]
  | none => if declareNothing outcome.chunks then [.nothingDeclared grammar] else []

/-- The declarations of a source with braces. -/
def Told.ofBraces (treeOf : TreeReader) (grammar : Grammar) (source : Text) :
    Except ChunkFailure (Told (List Chunk)) := do
  let outcome ← Declarations.ofTree source (treeOf grammar source)
  return { value := outcome.chunks, events := outcome.events grammar }

/-! ## Bounding -/

/-- How a chunk is brought within the size that options allow. -/
inductive Division where
  /-- It is small enough. -/
  | whole
  /-- It has no structure to follow and is cut into windows. -/
  | windows
  /-- One of its lines is too long, so it is cut into windows. -/
  | longLine
  /-- It is cut between lines. -/
  | lines
  deriving DecidableEq, Repr

namespace Chunk

/-- Whether the chunk stands for a source in which no declarations were found. -/
def isWholeFile (chunk : Chunk) : Bool :=
  chunk.kind == .wholeModule || chunk.kind == .unparseable

/-- How the chunk is brought within the size that options allow. -/
def division (chunk : Chunk) (options : Options) : Division :=
  if chunk.size ≤ options.maxChunkSize then .whole
  else if chunk.isWholeFile then .windows
  else if chunk.content.lines.any (options.maxChunkSize < ·.length) then .longLine
  else .lines

/-- The pieces of the chunk that options allow. -/
def bounded (chunk : Chunk) (source : Text) (family : Family) (options : Options) :
    Except ChunkFailure (List Chunk) :=
  match chunk.division options with
  | .whole => .ok [chunk]
  | .windows => .ok (chunk.windows source options.maxChunkSize options.overlap)
  | .longLine | .lines =>
      chunk.split source options.maxChunkSize options.overlap options.preserveSignatures family

/-- The events that cutting the chunk into the given number of pieces tells of. -/
def divisionEvents (chunk : Chunk) (options : Options) (parts : Nat) : List Event :=
  let windowed :=
    Event.windowed chunk.name chunk.kind parts options.maxChunkSize options.overlap
  match chunk.division options with
  | .whole => []
  | .windows => [windowed]
  | .longLine => [.lineTooLong chunk.name chunk.size, windowed]
  | .lines => [.split chunk.name chunk.kind chunk.size parts]

/-- The pieces of the chunk that options allow, with the events of cutting it. -/
def boundedTold (chunk : Chunk) (source : Text) (family : Family) (options : Options) :
    Except ChunkFailure (Told (List Chunk)) := do
  let pieces ← chunk.bounded source family options
  return { value := pieces, events := chunk.divisionEvents options pieces.length }

end Chunk

/-! ## Segmenting -/

/-- The windows of a source whose language is unknown. -/
def Told.ofPlainText (source : Text) (options : Options) : Told (List Chunk) :=
  let pieces := source.windows options.maxChunkSize options.overlap
  { value := pieces
    events :=
      if source.length ≤ options.maxChunkSize then []
      else
        [.windowed "content".toList .plainText pieces.length options.maxChunkSize
          options.overlap] }

/-- The pieces of declarations that options allow, with the events of finding and cutting them. -/
def Told.bounded (declarations : Told (List Chunk)) (source : Text) (family : Family)
    (options : Options) : Except ChunkFailure (Told (List Chunk)) := do
  let cut ← declarations.value.mapM (·.boundedTold source family options)
  return { value := cut.flatMap (·.value), events := declarations.events ++ cut.flatMap (·.events) }

/-- The final chunks of a source in the given language. -/
def segmentsTold (treeOf : TreeReader) (source : Text) (language : Language) (options : Options) :
    Except ChunkFailure (Told (List Chunk)) :=
  match language.strategy with
  | .none => .ok (.ofPlainText source options)
  | .indented => (Told.ofIndented source).bounded source language.family options
  | .braces grammar => do
      let declarations ← Told.ofBraces treeOf grammar source
      declarations.bounded source language.family options

/-- The records of a source, with the events of the whole run. The path of the file is given as it
was spelled. -/
def segmentTold (treeOf : TreeReader) (source file : Text) (options : Options) :
    Except ChunkFailure (Told (List Record)) := do
  let language := (Path.ofText file).language
  let chunks ← segmentsTold treeOf source language options
  let records := chunks.value.map (Record.ofChunk · language options.calculateComplexity)
  return {
    value := records
    events := chunks.events ++ [.chunksReady file language records.length] }

/-- The records of a source. -/
def segment (treeOf : TreeReader) (source file : Text) (options : Options) :
    Except ChunkFailure (List Record) :=
  (·.value) <$> segmentTold treeOf source file options

end Segmentation
