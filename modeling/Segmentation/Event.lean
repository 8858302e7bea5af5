import Segmentation.Chunk
import Segmentation.Language
import Segmentation.Json

/-!
# Events

What is worth telling about a run while it goes on. An event says what happened and to what; its
name, its severity, the part of the program that it comes from and its details as text follow from
that.
-/

namespace Segmentation

/-- How much an event matters. -/
inductive Severity where
  | debug
  | info
  | warning
  deriving DecidableEq, Repr

namespace Severity

/-- The name of a severity in log lines. -/
def label : Severity → String
  | debug => "debug"
  | info => "info"
  | warning => "warning"

/-- The number by which severities are compared with the levels of logs. -/
def rank : Severity → Nat
  | debug => 10
  | info => 20
  | warning => 30

end Severity

/-- Something that happened in a run. -/
inductive Event where
  /-- A source with braces declares nothing. -/
  | nothingDeclared (grammar : Grammar)
  /-- A source with indented blocks declares nothing. -/
  | nothingDeclaredIndented
  /-- The syntax of a source could not be used. -/
  | syntaxError (grammar : Grammar) (diagnostic : Text)
  | windowed (name : Text) (kind : ChunkKind) (parts : Nat) (maxSize overlap : Nat)
  /-- A chunk has a line that is too long to be kept whole. -/
  | lineTooLong (name : Text) (size : Nat)
  | split (name : Text) (kind : ChunkKind) (size parts : Nat)
  /-- All chunks of a source are made. -/
  | chunksReady (file : Text) (language : Language) (chunks : Nat)
  /-- A file is done. -/
  | fileDone (file : Text) (chunks : Nat)
  deriving DecidableEq, Repr

namespace Event

/-- The name of an event in log lines. -/
def name : Event → String
  | nothingDeclared _ | nothingDeclaredIndented => "no_declarations_found"
  | syntaxError .. => "tree_sitter_syntax_error"
  | windowed .. => "chunk_windowed"
  | lineTooLong .. => "chunk_split_windowed"
  | split .. => "chunk_split"
  | chunksReady .. => "chunks_ready"
  | fileDone .. => "file_chunked"

/-- How much an event matters. -/
def severity : Event → Severity
  | syntaxError .. => .warning
  | fileDone .. => .info
  | _ => .debug

/-- The log that an event goes to. -/
def logger : Event → String
  | nothingDeclared _ | syntaxError .. => "smartchunk.chunking.tree_sitter_parser"
  | nothingDeclaredIndented => "smartchunk.chunking.indentation_parser"
  | windowed .. => "smartchunk.chunking.windower"
  | lineTooLong .. | split .. => "smartchunk.chunking.splitter"
  | chunksReady .. => "smartchunk.chunking.engine"
  | fileDone .. => "smartchunk.cli"

/-- The details of an event, in alphabetical order. -/
def details : Event → List (String × Json)
  | nothingDeclared grammar =>
      [("grammar", .string grammar.label.toList), ("strategy", .string "tree_sitter".toList)]
  | nothingDeclaredIndented => [("strategy", .string "indentation".toList)]
  | syntaxError grammar diagnostic =>
      [("error", .string diagnostic), ("grammar", .string grammar.label.toList)]
  | windowed name kind parts maxSize overlap =>
      [("kind", .string kind.label.toList), ("max_size", .number maxSize), ("name", .string name),
        ("overlap", .number overlap), ("parts", .number parts)]
  | lineTooLong name size => [("name", .string name), ("size", .number size)]
  | split name kind size parts =>
      [("kind", .string kind.label.toList), ("name", .string name), ("parts", .number parts),
        ("size", .number size)]
  | chunksReady file language chunks =>
      [("chunks", .number chunks), ("file", .string file),
        ("language", .string language.name.toList)]
  | fileDone file chunks => [("chunks", .number chunks), ("file", .string file)]

end Event

end Segmentation
