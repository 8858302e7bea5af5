import Segmentation.Chunk
import Segmentation.Indentation.Block
import Segmentation.Indentation.Header
import Segmentation.Text.LineTable

/-!
# Declarations of an indentation-delimited source

Functions and classes are found by their headers at any depth, so a method has a chunk of its own
inside the chunk of its class. A declaration runs from the first line of its header to the last line
of its block; a source without headers is one chunk.
-/

namespace Segmentation.Indentation

/-- The kind of chunk that a header opens. -/
def HeaderKind.chunkKind : HeaderKind → ChunkKind
  | .functionHeader => .functionDeclaration
  | .classHeader => .classDeclaration

/-- The chunk of one header. How deep the header is indented is read off the line of its name, and
the body starts on the line after its colon. -/
def chunkOf (source : Text) (table : LineTable) (located : LocatedHeader) : Chunk :=
  let header := located.header
  let baseIndent := indentWidth (table.line (table.lineOf located.nameOffset))
  let bodyStart := table.lineOf (located.stop - 1) + 1
  let lastLine := (blockEnd table.lines bodyStart baseIndent).toNat
  let stop := table.lineEnd lastLine
  { kind := header.kind.chunkKind
    name := header.name
    startLine := table.lineOf located.offset + 1
    endLine := lastLine + 1
    startOffset := located.offset
    endOffset := stop
    content := Text.slice source located.offset stop
    signature := some header.signature
    docComment := docString? table.lines bodyStart
    decorators := header.decoratorEntries
    isAsync := header.isAsync }

/-- The headers of a source: all functions, then all classes. -/
def allHeaders (source : Text) : List LocatedHeader :=
  headers .functionHeader source ++ headers .classHeader source

/-- The chunks of a source by ascending start, or the whole source when it declares nothing. -/
def chunks (source : Text) : List Chunk :=
  match (allHeaders source).map (chunkOf source (LineTable.ofText source)) with
  | [] => [Chunk.wholeSource .wholeModule "module" source]
  | found => found.mergeSort fun left right => left.startOffset ≤ right.startOffset

end Segmentation.Indentation
