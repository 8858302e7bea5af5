import Segmentation.DocComment
import Segmentation.SyntaxTree

/-!
# Declarations of a syntax tree

The chunks of a source in a language with braces are the declarations among the top-level statements
of its syntax tree. Export wrappers are peeled off and only leave a mark on what they wrap. Nothing
here depends on how the tree was made: a tree is read as it is.
-/

namespace Segmentation

/-- What the analysis of one source gives: its chunks, and what was wrong with the source if its
syntax could not be used. -/
structure ParseOutcome where
  chunks : List Chunk
  diagnostic : Option Text := none

/-- Whether the source could not be used for its syntax. -/
def ParseOutcome.failed (outcome : ParseOutcome) : Bool :=
  outcome.diagnostic.isSome

namespace Declarations

/-! ## Node types -/

/-- The name of a declaration that has none. -/
def anonymous : Text := "anonymous".toList

def functionDeclarations : List String :=
  ["function_declaration", "generator_function_declaration"]

def classDeclarations : List String :=
  ["class_declaration", "abstract_class_declaration", "class"]

def functionValues : List String :=
  ["arrow_function", "function_expression", "function", "generator_function"]

def variableDeclarations : List String :=
  ["lexical_declaration", "variable_declaration"]

def generators : List String :=
  ["generator_function_declaration", "generator_function"]

/-- The node types of declarations on the level of types, with the keyword of each. -/
def typeDeclarations : List (String × String) :=
  [("interface_declaration", "interface"), ("type_alias_declaration", "type"),
    ("enum_declaration", "enum")]

/-! ## Spans -/

/-- A character offset, with a fault of the byte offset as a failure to cut. -/
def charOffset (source : Text) (byteOffset : Nat) : Except ChunkFailure Nat :=
  (source.charOffset byteOffset).mapError .brokenCharacter

/-- The character offsets at which a node starts and ends. -/
def span (source : Text) (node : SyntaxTree) : Except ChunkFailure (Nat × Nat) := do
  let start ← charOffset source node.info.startByte
  let stop ← charOffset source node.info.endByte
  return (start, stop)

/-- The text of a node. -/
def nodeText (source : Text) (node : SyntaxTree) : Except ChunkFailure Text := do
  let (start, stop) ← span source node
  return Text.slice source start stop

/-- The name that a node gives itself. -/
def nameOf (source : Text) (node : SyntaxTree) : Except ChunkFailure Text :=
  match node.child? "name" with
  | some name => nodeText source name
  | none => .ok anonymous

/-- Whether a node is marked as asynchronous. -/
def isAsync (node : SyntaxTree) : Bool :=
  node.children.any (·.type == "async")

/-- The chunk that a node spans. -/
def spanChunk (source : Text) (node : SyntaxTree) (kind : ChunkKind) (name signature : Text)
    (exported : Bool) : Except ChunkFailure Chunk := do
  let (start, stop) ← span source node
  return {
    kind, name
    startLine := (node.info.startPoint.row + 1 : Nat)
    endLine := (node.info.endPoint.row + 1 : Nat)
    startOffset := start
    endOffset := stop
    content := Text.slice source start stop
    signature := some signature
    isExported := exported }

/-- The chunk with the documentation above it, for a source with the given lines. -/
def withDocComment (lines : List Text) (chunk : Chunk) : Except ChunkFailure Chunk := do
  return { chunk with docComment := ← DocComment.above lines chunk.startLine.toNat }

/-! ## Classification -/

/-- The node inside any number of export wrappers, and whether there was one. A wrapper that holds
neither a declaration nor a value holds nothing. -/
def unwrapExports (node : SyntaxTree) : Option SyntaxTree × Bool :=
  if node.type = "export_statement" then
    match _found : node.child? "declaration" with
    | some inner => ((unwrapExports inner).1, true)
    | none =>
        match _found : node.child? "value" with
        | some inner => ((unwrapExports inner).1, true)
        | none => (none, true)
  else (some node, false)
termination_by node.size
decreasing_by all_goals exact SyntaxTree.size_lt_of_child? _found

/-- The chunk of a function. Its signature is all in front of its body. -/
def functionChunk (source : Text) (node : SyntaxTree) (exported : Bool) :
    Except ChunkFailure Chunk := do
  let (start, stop) ← span source node
  let signature ←
    match node.child? "body" with
    | some body => do
        let bodyStart ← charOffset source body.info.startByte
        pure (Text.slice source start bodyStart)
    | none => pure ((Text.slice source start stop).before "\x7b")
  let name ← nameOf source node
  let chunk ← spanChunk source node .functionDeclaration name (Text.trim signature) exported
  return { chunk with isAsync := isAsync node, isGenerator := generators.contains node.type }

/-- A variable declarator that holds a function, with that function. -/
def functionDeclarator? (node : SyntaxTree) : Option (SyntaxTree × SyntaxTree) :=
  if node.type = "variable_declarator" then
    match node.child? "value" with
    | some value => if functionValues.contains value.type then some (node, value) else none
    | none => none
  else none

/-- The chunk of a variable declaration: there is one when a declarator holds a function, and the
first such declarator gives the name. Its signature is the declarator up to the first brace. -/
def variableChunk? (source : Text) (node : SyntaxTree) (exported : Bool) :
    Except ChunkFailure (Option Chunk) :=
  match node.namedChildren.findSome? functionDeclarator? with
  | none => .ok none
  | some (declarator, value) => do
      let text ← nodeText source declarator
      let name ← nameOf source declarator
      let signature := (text.before "\x7b").trim ++ ' ' :: Chunk.bodyPlaceholder.toList
      let chunk ← spanChunk source node .functionDeclaration name signature exported
      return some
        { chunk with isAsync := isAsync value, isGenerator := generators.contains value.type }

/-- The chunk of a node whose signature is a keyword and its name. -/
def namedChunk (source : Text) (node : SyntaxTree) (kind : ChunkKind) (keyword : String)
    (exported : Bool) : Except ChunkFailure Chunk := do
  let name ← nameOf source node
  spanChunk source node kind name (keyword.toList ++ ' ' :: name) exported

/-- The chunk of a node that no export wraps any more. A function value is a declaration only when
it was exported. -/
def classifyInner (source : Text) (node : SyntaxTree) (exported : Bool) :
    Except ChunkFailure (Option Chunk) :=
  if functionDeclarations.contains node.type || (exported && functionValues.contains node.type) then
    some <$> functionChunk source node exported
  else if classDeclarations.contains node.type then
    some <$> namedChunk source node .classDeclaration "class" exported
  else if variableDeclarations.contains node.type then
    variableChunk? source node exported
  else
    match typeDeclarations.lookup node.type with
    | some keyword => some <$> namedChunk source node .other keyword exported
    | none => .ok none

/-- The chunk of a top-level statement, if it declares something. -/
def classify (source : Text) (statement : SyntaxTree) : Except ChunkFailure (Option Chunk) :=
  match unwrapExports statement with
  | (some node, exported) => classifyInner source node exported
  | (none, _) => .ok none

/-- The outcome for a source whose syntax cannot be used: one chunk that holds all of it. -/
def unusable (source : Text) (diagnostic : Text) : ParseOutcome where
  chunks := [Chunk.wholeSource .unparseable "unparseable" source]
  diagnostic := some diagnostic

/-- The chunks of a source with the given syntax tree: its top-level declarations in source order,
or the whole source when it declares nothing or its tree has an error. -/
def ofTree (source : Text) (tree : SyntaxTree) : Except ChunkFailure ParseOutcome :=
  if tree.info.hasError then .ok (unusable source tree.diagnostic)
  else do
    let lines := source.lines
    let found ← tree.namedChildren.mapM fun statement => do
      (← classify source statement).mapM (withDocComment lines)
    match found.filterMap id with
    | [] => return { chunks := [Chunk.wholeSource .wholeModule "module" source] }
    | chunks => return { chunks }

end Declarations

end Segmentation
