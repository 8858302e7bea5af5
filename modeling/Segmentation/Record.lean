import Segmentation.Json
import Segmentation.Metrics

/-!
# Records

A record is a final chunk with its metrics, flattened into a text to embed and its metadata.
-/

namespace Segmentation

/-- A final chunk with its metrics. -/
structure Record where
  chunk : Chunk
  language : String
  linesOfCode : Nat
  complexity : Nat
  importance : Nat
  preview : Text
  isPublic : Bool
  deriving DecidableEq, Repr

namespace Record

/-- The record of a chunk. Complexity is one where it is not to be calculated. -/
def ofChunk (chunk : Chunk) (language : Language) (calculateComplexity : Bool := true) :
    Record where
  chunk
  language := language.name
  linesOfCode := Metrics.linesOfCode chunk.content language.commentMarkers
  complexity := if calculateComplexity then Metrics.complexity chunk.content else 1
  importance := Metrics.importance chunk
  preview := Metrics.preview chunk.text
  isPublic := Metrics.isPublicName chunk.name

/-- The decorators in one text, or nothing when there are none. -/
def decoratorText (decorators : List Text) : Option Text :=
  if decorators.isEmpty then none else some (decorators.intersperse ", ".toList).flatten

/-- The metadata of a record, in the order in which it is written. -/
def metadata (record : Record) : List (String × Json) :=
  let chunk := record.chunk
  [("chunk_type", .string chunk.kind.label.toList),
    ("name", .string chunk.name),
    ("language", .string record.language.toList),
    ("start_line", .number chunk.startLine),
    ("end_line", .number chunk.endLine),
    ("start_char", .number chunk.startOffset),
    ("end_char", .number chunk.endOffset),
    ("line_count", .number (chunk.endLine - chunk.startLine + 1)),
    ("char_count", .number chunk.text.length),
    ("is_partial", .bool chunk.isPartial),
    ("part_number", .number chunk.partNumber),
    ("total_parts", .number chunk.totalParts),
    ("parent_chunk", .optional chunk.parentName),
    ("signature", .optional chunk.signature),
    ("has_docstring", .bool !(chunk.docComment.getD []).isEmpty),
    ("docstring", .optional chunk.docComment),
    ("decorators", .optional (decoratorText chunk.decorators)),
    ("complexity_estimate", .number record.complexity),
    ("loc", .number record.linesOfCode),
    ("chunk_score", .number record.importance),
    ("is_public", .bool record.isPublic),
    ("is_exported", .bool chunk.isExported),
    ("is_async", .bool chunk.isAsync),
    ("is_generator", .bool chunk.isGenerator),
    ("preview", .string record.preview)]

/-- The record as a JSON value. -/
def toJson (record : Record) : Json :=
  .object [("content", .string record.chunk.text), ("metadata", .object record.metadata)]

end Record

end Segmentation
