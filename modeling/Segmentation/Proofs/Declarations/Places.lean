import Segmentation.Proofs.Chunk
import Segmentation.Proofs.Outcome
import Segmentation.Proofs.SyntaxTree

/-!
# Where the chunks of nodes stand

Whichever way a chunk is made of a node, the node spans it, and after that only its marks and its
documentation are filled in. So it stands on the lines of the node, holds the text between its
offsets and is no part of another chunk. All this is asked of a chunk that is there; whether the
tree fits the source does not matter for it.
-/

namespace Segmentation.Declarations

variable {source : Text} {node : SyntaxTree} {exported : Bool} {chunk : Chunk}

/-- A chunk that a node spans. -/
structure SpannedBy (source : Text) (node : SyntaxTree) (chunk : Chunk) : Prop where
  offsets : ∃ start stop : Nat, span source node = .ok (start, stop) ∧
    chunk.startOffset = (start : Int) ∧ chunk.endOffset = (stop : Int)
  startLine_eq : chunk.startLine = (node.info.startPoint.row + 1 : Nat)
  endLine_eq : chunk.endLine = (node.info.endPoint.row + 1 : Nat)
  content_eq : chunk.content = source.slice chunk.startOffset chunk.endOffset
  isWhole : chunk.IsWhole

namespace SpannedBy

theorem described (spanned : SpannedBy source node chunk) (isAsync isGenerator : Bool)
    (docComment : Option Text) :
    SpannedBy source node { chunk with isAsync, isGenerator, docComment } := by
  obtain ⟨offsets, startLine, endLine, content, whole⟩ := spanned
  obtain ⟨isPartial, partNumber, totalParts, parentName, heading⟩ := whole
  exact ⟨offsets, startLine, endLine, content,
    ⟨isPartial, partNumber, totalParts, parentName, heading⟩⟩

theorem marked (spanned : SpannedBy source node chunk) (isAsync isGenerator : Bool) :
    SpannedBy source node { chunk with isAsync, isGenerator } :=
  spanned.described isAsync isGenerator chunk.docComment

theorem documented (spanned : SpannedBy source node chunk) {lines : List Text} {chunk' : Chunk}
    (made : withDocComment lines chunk = .ok chunk') : SpannedBy source node chunk' := by
  obtain ⟨comment, -, made⟩ := bind_eq_ok.1 made
  obtain rfl := Except.ok.inj made
  exact spanned.described chunk.isAsync chunk.isGenerator comment

end SpannedBy

/-! ## Chunks of nodes -/

theorem spannedBy_of_spanChunk {kind : ChunkKind} {name signature : Text}
    (made : spanChunk source node kind name signature exported = .ok chunk) :
    SpannedBy source node chunk := by
  obtain ⟨⟨start, stop⟩, place, made⟩ := bind_eq_ok.1 made
  obtain rfl := Except.ok.inj made
  exact ⟨⟨start, stop, place, rfl, rfl⟩, rfl, rfl, rfl, ⟨rfl, rfl, rfl, rfl, rfl⟩⟩

theorem spannedBy_of_namedChunk {kind : ChunkKind} {keyword : String}
    (made : namedChunk source node kind keyword exported = .ok chunk) :
    SpannedBy source node chunk := by
  obtain ⟨name, -, made⟩ := bind_eq_ok.1 made
  exact spannedBy_of_spanChunk made

/-- The text in front of the body of a function. -/
def functionHeader (source : Text) (node : SyntaxTree) : Except ChunkFailure Text := do
  let (start, stop) ← span source node
  match node.child? "body" with
  | some body => do
      let bodyStart ← charOffset source body.info.startByte
      pure (Text.slice source start bodyStart)
  | none => pure ((Text.slice source start stop).before "\x7b")

/-- The chunk of a function with the given header. -/
def headedFunction (source : Text) (node : SyntaxTree) (exported : Bool) (header : Text) :
    Except ChunkFailure Chunk := do
  let name ← nameOf source node
  let chunk ← spanChunk source node .functionDeclaration name (Text.trim header) exported
  return { chunk with isAsync := isAsync node, isGenerator := generators.contains node.type }

/-- The header of a function is found in one of two ways, and after that both go on alike. -/
theorem functionChunk_eq (source : Text) (node : SyntaxTree) (exported : Bool) :
    functionChunk source node exported =
      functionHeader source node >>= headedFunction source node exported := by
  rw [functionChunk, functionHeader]
  cases span source node with
  | error fault => rfl
  | ok place =>
      cases node.child? "body" with
      | none => rfl
      | some body =>
          simp only [bind, Except.bind]
          cases charOffset source body.info.startByte <;> rfl

theorem spannedBy_of_functionChunk (made : functionChunk source node exported = .ok chunk) :
    SpannedBy source node chunk := by
  rw [functionChunk_eq] at made
  obtain ⟨header, -, made⟩ := bind_eq_ok.1 made
  obtain ⟨name, -, made⟩ := bind_eq_ok.1 made
  obtain ⟨spanned, spannedBy, made⟩ := bind_eq_ok.1 made
  obtain rfl := Except.ok.inj made
  exact (spannedBy_of_spanChunk spannedBy).marked _ _

theorem spannedBy_of_variableChunk? {found : Option Chunk}
    (made : variableChunk? source node exported = .ok found) :
    ∀ chunk ∈ found, SpannedBy source node chunk := by
  unfold variableChunk? at made
  split at made
  · obtain rfl := Except.ok.inj made
    simp
  · obtain ⟨text, -, made⟩ := bind_eq_ok.1 made
    obtain ⟨name, -, made⟩ := bind_eq_ok.1 made
    obtain ⟨spanned, spannedBy, made⟩ := bind_eq_ok.1 made
    obtain rfl := Except.ok.inj made
    intro chunk member
    obtain rfl := Option.mem_some_iff.1 member
    exact (spannedBy_of_spanChunk spannedBy).marked _ _

theorem spannedBy_of_classifyInner {found : Option Chunk}
    (made : classifyInner source node exported = .ok found) :
    ∀ chunk ∈ found, SpannedBy source node chunk := by
  have sure {step : Except ChunkFailure Chunk} (equal : some <$> step = .ok found)
      (each : ∀ chunk, step = .ok chunk → SpannedBy source node chunk) :
      ∀ chunk ∈ found, SpannedBy source node chunk := by
    obtain ⟨chunk, here, rfl⟩ := map_eq_ok.1 equal
    intro chunk' member
    obtain rfl := Option.mem_some_iff.1 member
    exact each _ here
  unfold classifyInner at made
  split at made
  · exact sure made fun _ => spannedBy_of_functionChunk
  · split at made
    · exact sure made fun _ => spannedBy_of_namedChunk
    · split at made
      · exact spannedBy_of_variableChunk? made
      · split at made
        · exact sure made fun _ => spannedBy_of_namedChunk
        · obtain rfl := Except.ok.inj made
          simp

/-! ## Chunks of trees -/

/-- The chunk of a top-level statement with the documentation above it, if it declares something. -/
def documented (source : Text) (statement : SyntaxTree) : Except ChunkFailure (Option Chunk) := do
  (← classify source statement).mapM (withDocComment source.lines)

theorem spannedBy_of_statement {statement : SyntaxTree} {found : Option Chunk}
    (made : documented source statement = .ok found) :
    ∀ chunk ∈ found, ∃ inner, (unwrapExports statement).1 = some inner ∧
      SpannedBy source inner chunk := by
  obtain ⟨bare, classified, made⟩ := bind_eq_ok.1 made
  unfold classify at classified
  split at classified
  · next inner exported unwrapped =>
      have spanned := spannedBy_of_classifyInner classified
      intro chunk member
      refine ⟨inner, by rw [unwrapped], ?_⟩
      cases bare with
      | none =>
          obtain rfl := Except.ok.inj made
          exact absurd member (by simp)
      | some bare =>
          obtain ⟨documented, here, rfl⟩ := map_eq_ok.1 made
          obtain rfl := Option.mem_some_iff.1 member
          exact (spanned bare rfl).documented here
  · obtain rfl := Except.ok.inj classified
    obtain rfl := Except.ok.inj made
    simp

/-- Every chunk of a tree holds the whole source or is spanned by what a statement wraps. -/
theorem spannedBy_of_ofTree {tree : SyntaxTree} {outcome : ParseOutcome}
    (made : ofTree source tree = .ok outcome) (member : chunk ∈ outcome.chunks) :
    (∃ kind name, chunk = Chunk.wholeSource kind name source) ∨
      tree.info.hasError = false ∧ ∃ statement ∈ tree.namedChildren, ∃ inner,
        (unwrapExports statement).1 = some inner ∧ SpannedBy source inner chunk := by
  unfold ofTree at made
  split at made
  · obtain rfl := Except.ok.inj made
    exact .inl ⟨_, _, List.mem_singleton.1 member⟩
  · next noError =>
      obtain ⟨found, classified, made⟩ := bind_eq_ok.1 made
      have each := mapM_eq_ok.1 classified
      split at made
      · obtain rfl := Except.ok.inj made
        exact .inl ⟨_, _, List.mem_singleton.1 member⟩
      · obtain rfl := Except.ok.inj made
        obtain ⟨answer, inside, same⟩ := List.mem_filterMap.1 member
        obtain ⟨statement, named, here⟩ := exists_of_mem_forall₂ each inside
        exact .inr ⟨Bool.eq_false_iff.2 noError, statement, named,
          spannedBy_of_statement here chunk same⟩

end Segmentation.Declarations
