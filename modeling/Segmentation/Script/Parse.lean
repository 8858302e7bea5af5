import Segmentation.Script.Token

/-!
# Trees of scripts

The syntax tree of a script source. A source that the grammar does not read as a whole has a tree
with an error at the furthest place that was reached.
-/

namespace Segmentation.Script

open Lr (Table Cursor Stuck)

/-! ## Tables -/

/-- A grammar made ready for reading. -/
structure Tables where
  table : Table
  lexicon : Lexicon

/-- The tables of a dialect. -/
def Tables.ofDialect (dialect : Dialect) : Tables :=
  let table := Table.ofGrammar dialect.grammar
  ⟨table, .ofTable dialect.isTyped table⟩

def javascriptTables : Thunk Tables := Thunk.mk fun _ => .ofDialect .javascript

def typescriptTables : Thunk Tables := Thunk.mk fun _ => .ofDialect .typescript

def tsxTables : Thunk Tables := Thunk.mk fun _ => .ofDialect .tsx

/-- The tables of a grammar. -/
def Tables.ofGrammar : Grammar → Thunk Tables
  | .javascript => javascriptTables
  | .typescript => typescriptTables
  | .tsx => tsxTables

/-! ## Trees -/

/-- How many moves a source may take. -/
def budget (source : Text) : Nat :=
  10000 + 1000 * source.length

/-- The tree of a source that could not be read beyond some place. -/
def faultyTree (source : Text) (stuck : Stuck) : SyntaxTree :=
  let stop := (Cursor.start source).advance source.length
  let fault : NodeInfo :=
    { type := "ERROR", startByte := stuck.byte, endByte := stop.byte, startPoint := stuck.point
      endPoint := stop.point, isError := true, hasError := true }
  .node
    { type := "program", startByte := 0, endByte := stop.byte, startPoint := ⟨0, 0⟩
      endPoint := stop.point, hasError := true }
    [.node fault []]

/-- The syntax tree of a source. -/
def parse (grammar : Grammar) (source : Text) : SyntaxTree :=
  let tables := (Tables.ofGrammar grammar).get
  match Lr.read tables.table tables.lexicon.next (budget source) source with
  | .ok tree => tree
  | .error stuck => faultyTree source stuck

end Segmentation.Script
