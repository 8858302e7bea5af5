import Segmentation.Chunk
import Segmentation.CommandLine
import Segmentation.CommandLine.Arguments
import Segmentation.CommandLine.Command
import Segmentation.Declarations
import Segmentation.DocComment
import Segmentation.Event
import Segmentation.Field
import Segmentation.Folder
import Segmentation.Indentation.Block
import Segmentation.Indentation.Declarations
import Segmentation.Indentation.FromEnd
import Segmentation.Indentation.Header
import Segmentation.Json
import Segmentation.Language
import Segmentation.Log
import Segmentation.Lr.Automaton
import Segmentation.Lr.Cursor
import Segmentation.Lr.Forest
import Segmentation.Lr.Production
import Segmentation.Lr.Reader
import Segmentation.Lr.Rule
import Segmentation.Lr.Stack
import Segmentation.Lr.Table
import Segmentation.Main
import Segmentation.Metrics
import Segmentation.Number.Binary64
import Segmentation.Number.Digits
import Segmentation.Number.Nearest
import Segmentation.Number.Shortest
import Segmentation.Number.Spelled
import Segmentation.Options
import Segmentation.Path
import Segmentation.Proofs.Split.Cut
import Segmentation.Proofs.Text.Lines
import Segmentation.Record
import Segmentation.Run
import Segmentation.Script.Dialect
import Segmentation.Script.Grammar
import Segmentation.Script.Grammar.Classes
import Segmentation.Script.Grammar.Expressions
import Segmentation.Script.Grammar.Markup
import Segmentation.Script.Grammar.Statements
import Segmentation.Script.Grammar.Types
import Segmentation.Script.Insertion
import Segmentation.Script.Lexeme
import Segmentation.Script.Parse
import Segmentation.Script.Token
import Segmentation.Segmenter
import Segmentation.Session
import Segmentation.Settings
import Segmentation.Split
import Segmentation.SyntaxTree
import Segmentation.Table
import Segmentation.Text.Basic
import Segmentation.Text.Blank
import Segmentation.Text.Case
import Segmentation.Text.CellWidth
import Segmentation.Text.Cells
import Segmentation.Text.Emoji
import Segmentation.Text.Emoji.Flags
import Segmentation.Text.Emoji.People
import Segmentation.Text.Emoji.Things
import Segmentation.Text.LineTable
import Segmentation.Text.Markup
import Segmentation.Text.Printable
import Segmentation.Text.Quoted
import Segmentation.Text.Style
import Segmentation.Text.Utf8
import Segmentation.Text.Word
import Segmentation.Text.Wrap
import Segmentation.Toml.Document
import Segmentation.Toml.Read
import Segmentation.Toml.Value
import Segmentation.Window
import Segmentation.Proofs.Split.Plan
import Segmentation.Proofs.Chunk
import Segmentation.Proofs.Number.Rounding
import Segmentation.Proofs.Window
import Segmentation.Proofs.Outcome
import Segmentation.Proofs.Split.Pieces
import Segmentation.Proofs.Split.Coverage
import Segmentation.Proofs.Split.Redundancy
import Segmentation.Proofs.Indentation.Declarations
import Segmentation.Proofs.SyntaxTree
import Segmentation.Proofs.Declarations.Chunks
import Segmentation.Proofs.Segmenter.Bounds
import Segmentation.Proofs.Declarations.Order
import Segmentation.Proofs.Segmenter.Order
import Segmentation.Proofs.Declarations.Statements
import Segmentation.Proofs.Split.Parts
import Segmentation.Proofs.Text.WholeLines
import Segmentation.Proofs.Indentation.Extent
import Segmentation.Proofs.Segmenter.Groups
import Segmentation.Proofs.Indentation.Nesting
import Segmentation.Proofs.Indentation.Reading
import Segmentation.Proofs.Indentation.Scan
import Segmentation.Proofs.Indentation.RoundTrip
import Segmentation.Proofs.Segmenter.Stages
import Segmentation.Proofs.Declarations.Places
import Segmentation.Proofs.Segmenter.LineNumbers
import Segmentation.Proofs.Indentation.Behind
import Segmentation.Proofs.Segmenter.Behind
import Segmentation.Proofs.Segmenter.Switches
import Segmentation.Proofs.Session
import Segmentation.Proofs.Text.Runs
import Segmentation.Proofs.Window.Geometry
import Segmentation.Proofs.Split.Layout
import Segmentation.Proofs.Split.Alignment
import Segmentation.Proofs.Split.Partition
import Segmentation.Proofs.Split.Progress
import Segmentation.Proofs.Text.Marks
import Segmentation.Proofs.DocComment
import Segmentation.Proofs.Indentation.DocString
import Segmentation.Proofs.Indentation.Siblings
import Segmentation.Proofs.Declarations.Signatures
import Segmentation.Proofs.Text.Pieces
import Segmentation.Proofs.Indentation.Shape
import Segmentation.Proofs.Indentation.Decorators
import Segmentation.Proofs.Indentation.Literal
import Segmentation.Proofs.Declarations.Exports
import Segmentation.Proofs.Declarations.Faults
import Segmentation.Proofs.Text.Trim
import Segmentation.Proofs.Text.Words
import Segmentation.Proofs.Metrics.Complexity
import Segmentation.Proofs.Field
import Segmentation.Proofs.Options
import Segmentation.Proofs.CommandLine
import Segmentation.Proofs.Settings
import Segmentation.Proofs.Split.Search
import Segmentation.Proofs.Indentation.BlockEnd
import Segmentation.Proofs.Text.Decoding
import Segmentation.Proofs.Text.LineTable
