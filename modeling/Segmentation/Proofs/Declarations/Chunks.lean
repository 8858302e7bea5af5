import Segmentation.Proofs.Declarations.Places

/-!
# Chunks of declaration nodes

On a tree that lies within its source nothing fails: offsets of nodes are offsets of characters, and
the lines above a declaration exist. The chunk of a declaration stands where the node inside its
export wrappers does.
-/

namespace Segmentation

theorem Declarations.charOffset_take {source : Text} {count : Nat}
    (inside : count ≤ source.length) :
    charOffset source (Text.utf8Length (source.take count)) = .ok count := by
  rw [charOffset, Text.charOffset_take inside]
  rfl

namespace NodeInfo

variable {info : NodeInfo} {source : Text} {start stop : Nat}

namespace Spans

theorem charOffset_start (spans : info.Spans source start stop) :
    Declarations.charOffset source info.startByte = .ok start := by
  rw [spans.startByte_eq, Declarations.charOffset_take (Nat.le_trans spans.ordered spans.inside)]

theorem charOffset_stop (spans : info.Spans source start stop) :
    Declarations.charOffset source info.endByte = .ok stop := by
  rw [spans.endByte_eq, Declarations.charOffset_take spans.inside]

theorem within (spans : info.Spans source start stop) : info.Within source := by
  have inLines (offset : Nat) : Text.newlines (source.take offset) < source.lines.length := by
    rw [Text.length_lines]
    exact Nat.lt_succ_of_le ((List.take_sublist offset source).count_le _)
  refine ⟨⟨start, Nat.le_trans spans.ordered spans.inside, spans.startByte_eq⟩,
    ⟨stop, spans.inside, spans.endByte_eq⟩, ?_, ?_⟩
  · rw [spans.startRow_eq]
    exact inLines start
  · rw [spans.endRow_eq]
    exact inLines stop

theorem unique {start' stop' : Nat} (left : info.Spans source start stop)
    (right : info.Spans source start' stop') : start = start' ∧ stop = stop' := by
  have inside := Nat.le_trans left.ordered left.inside
  have inside' := Nat.le_trans right.ordered right.inside
  have starts := left.startByte_eq.symm.trans right.startByte_eq
  have stops := left.endByte_eq.symm.trans right.endByte_eq
  constructor
  · exact Nat.le_antisymm (Text.le_of_utf8Length_take_le inside (Nat.le_of_eq starts))
      (Text.le_of_utf8Length_take_le inside' (Nat.le_of_eq starts.symm))
  · exact Nat.le_antisymm (Text.le_of_utf8Length_take_le left.inside (Nat.le_of_eq stops))
      (Text.le_of_utf8Length_take_le right.inside (Nat.le_of_eq stops.symm))

end Spans

namespace Within

variable (within : info.Within source)
include within

theorem gives_startOffset :
    Gives (Declarations.charOffset source info.startByte) fun _ => True := by
  obtain ⟨start, inside, equal⟩ := within.startByte
  rw [equal, Declarations.charOffset_take inside]
  exact .pure trivial

theorem gives_endOffset : Gives (Declarations.charOffset source info.endByte) fun _ => True := by
  obtain ⟨stop, inside, equal⟩ := within.endByte
  rw [equal, Declarations.charOffset_take inside]
  exact .pure trivial

end Within

end NodeInfo

theorem SyntaxTree.Spanned.bounded {source : Text} {tree : SyntaxTree}
    (spanned : tree.Spanned source) : tree.Bounded source :=
  spanned.imp fun _ ⟨_, _, spans⟩ => spans.within

namespace Declarations

variable {source : Text} {node : SyntaxTree} {start stop : Nat}

theorem span_eq (spans : node.info.Spans source start stop) :
    span source node = .ok (start, stop) := by
  simp [span, spans.charOffset_start, spans.charOffset_stop, bind, Except.bind, pure, Except.pure]

theorem nodeText_eq (spans : node.info.Spans source start stop) :
    nodeText source node = .ok (source.slice start stop) := by
  simp [nodeText, span_eq spans, bind, Except.bind, pure, Except.pure]

theorem gives_span (bounded : node.Bounded source) : Gives (span source node) fun _ => True := by
  refine Gives.bind _ bounded.root.gives_startOffset fun start _ => ?_
  exact Gives.bind _ bounded.root.gives_endOffset fun stop _ => .pure trivial

theorem gives_nodeText (bounded : node.Bounded source) :
    Gives (nodeText source node) fun _ => True :=
  Gives.bind _ (gives_span bounded) fun _ _ => .pure trivial

theorem gives_nameOf (bounded : node.Bounded source) :
    Gives (nameOf source node) fun _ => True := by
  unfold nameOf
  split
  · next name found => exact gives_nodeText (bounded.child? found)
  · exact .pure trivial

/-! ## Chunks of nodes -/

theorem gives_spanChunk (bounded : node.Bounded source) (kind : ChunkKind) (name signature : Text)
    (exported : Bool) :
    Gives (spanChunk source node kind name signature exported) (SpannedBy source node) :=
  Gives.of_ok (Gives.bind _ (gives_span bounded) fun _ _ => .pure trivial) fun _ =>
    spannedBy_of_spanChunk

theorem gives_functionHeader (bounded : node.Bounded source) :
    Gives (functionHeader source node) fun _ => True := by
  refine Gives.bind _ (gives_span bounded) fun _ _ => ?_
  dsimp only
  split
  · next body found =>
      have bodyBounded : body.Bounded source := bounded.child? found
      exact Gives.bind _ bodyBounded.root.gives_startOffset fun _ _ => .pure trivial
  · exact .pure trivial

theorem gives_functionChunk (bounded : node.Bounded source) (exported : Bool) :
    Gives (functionChunk source node exported) (SpannedBy source node) := by
  refine Gives.of_ok ?_ fun _ => spannedBy_of_functionChunk
  rw [functionChunk_eq]
  refine Gives.bind _ (gives_functionHeader bounded) fun header _ => ?_
  refine Gives.bind _ (gives_nameOf bounded) fun name _ => ?_
  exact Gives.bind _ (gives_spanChunk bounded _ _ _ _) fun _ _ => .pure trivial

/-- The declarator that gives a variable its function is a child, and its value is the function. -/
theorem declarator_of_findSome? {declarator value : SyntaxTree}
    (found : node.namedChildren.findSome? functionDeclarator? = some (declarator, value)) :
    declarator ∈ node.namedChildren ∧ declarator.child? "value" = some value := by
  obtain ⟨child, member, made⟩ := List.exists_of_findSome?_eq_some found
  unfold functionDeclarator? at made
  split at made
  · split at made
    · next value' valueFound =>
        rw [Option.ite_none_right_eq_some, Option.some.injEq, Prod.mk.injEq] at made
        obtain ⟨-, rfl, rfl⟩ := made
        exact ⟨member, valueFound⟩
    · exact absurd made (by simp)
  · exact absurd made (by simp)

theorem gives_variableChunk? (bounded : node.Bounded source) (exported : Bool) :
    Gives (variableChunk? source node exported)
      fun found => ∀ chunk ∈ found, SpannedBy source node chunk := by
  refine Gives.of_ok ?_ fun _ => spannedBy_of_variableChunk?
  unfold variableChunk?
  split
  · exact .pure trivial
  · next declarator value found =>
      have declaratorBounded := bounded.namedChild (declarator_of_findSome? found).1
      refine Gives.bind _ (gives_nodeText declaratorBounded) fun text _ => ?_
      refine Gives.bind _ (gives_nameOf declaratorBounded) fun name _ => ?_
      exact Gives.bind _ (gives_spanChunk bounded _ _ _ _) fun _ _ => .pure trivial

theorem gives_namedChunk (bounded : node.Bounded source) (kind : ChunkKind) (keyword : String)
    (exported : Bool) :
    Gives (namedChunk source node kind keyword exported) (SpannedBy source node) :=
  Gives.bind _ (gives_nameOf bounded) fun _ _ => gives_spanChunk bounded _ _ _ _

/-- Making the chunk of a node never fails. -/
theorem gives_classifyInner (bounded : node.Bounded source) (exported : Bool) :
    Gives (classifyInner source node exported)
      fun found => ∀ chunk ∈ found, SpannedBy source node chunk := by
  have sure {step : Except ChunkFailure Chunk} (given : Gives step (SpannedBy source node)) :
      Gives (some <$> step) fun _ => True := given.map fun _ _ => trivial
  refine Gives.of_ok ?_ fun _ => spannedBy_of_classifyInner
  unfold classifyInner
  split
  · exact sure (gives_functionChunk bounded exported)
  · split
    · exact sure (gives_namedChunk bounded _ _ exported)
    · split
      · exact (gives_variableChunk? bounded exported).imp fun _ _ => trivial
      · split
        · exact sure (gives_namedChunk bounded _ _ exported)
        · exact .pure trivial

theorem gives_withDocComment {chunk : Chunk} (bounded : node.Bounded source)
    (spannedBy : SpannedBy source node chunk) :
    Gives (withDocComment source.lines chunk) (SpannedBy source node) := by
  have header : ¬source.lines.length < chunk.startLine.toNat - 1 := by
    have row := bounded.root.startRow_lt
    rw [spannedBy.startLine_eq, Int.toNat_natCast]
    omega
  refine Gives.of_ok ?_ fun _ => spannedBy.documented
  unfold withDocComment DocComment.above
  rw [if_neg header]
  exact .pure trivial

/-! ## Declaring nodes -/

/-- A chunk that stands where a node does. -/
structure StandsFor (source : Text) (node : SyntaxTree) (chunk : Chunk) : Prop where
  at_node : ∃ start stop, node.info.Spans source start stop ∧ chunk.startOffset = (start : Int) ∧
    chunk.endOffset = (stop : Int)
  content_eq : chunk.content = source.slice chunk.startOffset chunk.endOffset
  startLine_eq : chunk.startLine = (node.info.startPoint.row + 1 : Nat)

theorem SpannedBy.standsFor {chunk : Chunk} (spannedBy : SpannedBy source node chunk)
    (spans : node.info.Spans source start stop) : StandsFor source node chunk := by
  obtain ⟨start', stop', place, startEqual, stopEqual⟩ := spannedBy.offsets
  rw [span_eq spans, Except.ok.injEq, Prod.mk.injEq] at place
  obtain ⟨rfl, rfl⟩ := place
  exact ⟨⟨start, stop, spans, startEqual, stopEqual⟩, spannedBy.content_eq, spannedBy.startLine_eq⟩

/-- A chunk of a declaration node. -/
structure DeclaredBy (source : Text) (node : SyntaxTree) (chunk : Chunk) : Prop
    extends StandsFor source node chunk where
  type_mem : declarationTypes.contains node.type

theorem DeclaredBy.isSlice {chunk : Chunk} (declared : DeclaredBy source node chunk) :
    chunk.IsSlice source := by
  obtain ⟨start, stop, spans, startEqual, stopEqual⟩ := declared.at_node
  have ordered := spans.ordered
  have inside := spans.inside
  exact ⟨by omega, by omega, by omega, declared.content_eq⟩

theorem DeclaredBy.nonempty {chunk : Chunk} (declared : DeclaredBy source node chunk)
    (fits : node.Fits source) : chunk.startOffset < chunk.endOffset := by
  obtain ⟨start, stop, spans, startEqual, stopEqual⟩ := declared.at_node
  obtain ⟨start', stop', spans', filled⟩ := fits.root
  obtain ⟨rfl, rfl⟩ := spans.unique spans'
  have := filled declared.type_mem
  omega

theorem declarationTypes_contains_iff {type : String} :
    declarationTypes.contains type ↔ functionDeclarations.contains type ∨
      functionValues.contains type ∨ classDeclarations.contains type ∨
      variableDeclarations.contains type ∨ (typeDeclarations.map (·.1)).contains type := by
  simp only [declarationTypes, List.contains_append, Bool.or_eq_true, or_assoc]

theorem contains_of_lookup {type keyword : String}
    (found : typeDeclarations.lookup type = some keyword) :
    (typeDeclarations.map (·.1)).contains type := by
  obtain ⟨before, after, equal, -⟩ := List.lookup_eq_some_iff.1 found
  rw [equal]
  simp

/-- Only a node of one of the types that chunks are made of has a chunk. -/
theorem contains_of_classifyInner {exported : Bool} {chunk : Chunk}
    (made : classifyInner source node exported = .ok (some chunk)) :
    declarationTypes.contains node.type := by
  rw [declarationTypes_contains_iff]
  unfold classifyInner at made
  split at made
  · next function =>
      rw [Bool.or_eq_true, Bool.and_eq_true] at function
      exact function.imp id fun value => .inl value.2
  · split at made
    · next isClass => exact .inr (.inr (.inl isClass))
    · split at made
      · next isVariable => exact .inr (.inr (.inr (.inl isVariable)))
      · split at made
        · next keyword found => exact .inr (.inr (.inr (.inr (contains_of_lookup found))))
        · exact absurd made (by simp)

theorem SpannedBy.declaredBy {chunk : Chunk} (spannedBy : SpannedBy source node chunk)
    (spanned : node.Spanned source) (declares : declarationTypes.contains node.type) :
    DeclaredBy source node chunk := by
  obtain ⟨start, stop, spans⟩ := spanned.root
  exact ⟨spannedBy.standsFor spans, declares⟩

/-! ## Chunks of statements -/

/-- What holds of a node and passes to children holds of the node inside its export wrappers. -/
theorem of_unwrapExports (property : SyntaxTree → Prop)
    (down : ∀ tree child, property tree → child ∈ tree.children → property child)
    {statement inner : SyntaxTree} (holds : property statement)
    (unwrapped : (unwrapExports statement).1 = some inner) : property inner := by
  fun_induction unwrapExports statement with
  | case1 statement wrapper child found ih =>
      exact ih (down statement child holds (List.mem_of_find?_eq_some found)) unwrapped
  | case2 statement wrapper none child found ih =>
      exact ih (down statement child holds (List.mem_of_find?_eq_some found)) unwrapped
  | case3 statement wrapper => exact absurd unwrapped (by simp)
  | case4 statement plain =>
      rw [Option.some.injEq] at unwrapped
      rwa [← unwrapped]

/-- What holds of everything in a statement holds of everything inside its export wrappers. -/
theorem all_of_unwrapExports {property : SyntaxTree → Prop} {statement inner : SyntaxTree}
    (all : statement.All property) (unwrapped : (unwrapExports statement).1 = some inner) :
    inner.All property :=
  of_unwrapExports (SyntaxTree.All property) (fun _ _ all member => all.of_mem_children member) all
    unwrapped

/-- The chunk of a statement, if it has one, is that of the node inside its export wrappers. -/
theorem gives_classify {statement : SyntaxTree} (bounded : statement.Bounded source) :
    Gives (classify source statement) fun found => ∀ chunk ∈ found, ∃ inner,
      (unwrapExports statement).1 = some inner ∧ SpannedBy source inner chunk ∧
        declarationTypes.contains inner.type := by
  unfold classify
  split
  · next inner exported unwrapped =>
      have innerBounded : inner.Bounded source := all_of_unwrapExports bounded (by rw [unwrapped])
      refine ((gives_classifyInner innerBounded exported).and_of_ok fun _ made => made).imp ?_
      rintro found ⟨spannedBy, made⟩ chunk member
      obtain rfl := Option.mem_def.1 member
      exact ⟨inner, by rw [unwrapped], spannedBy chunk rfl, contains_of_classifyInner made⟩
  · exact .pure (by simp)

theorem gives_statement {statement : SyntaxTree} (bounded : statement.Bounded source) :
    Gives (documented source statement) fun found =>
      ∀ chunk ∈ found, ∃ inner, (unwrapExports statement).1 = some inner ∧
        SpannedBy source inner chunk ∧ declarationTypes.contains inner.type := by
  refine Gives.bind _ (gives_classify bounded) fun found made => ?_
  cases found with
  | none => exact .pure (by simp)
  | some chunk =>
      obtain ⟨inner, unwrapped, spannedBy, declares⟩ := made chunk rfl
      have innerBounded : inner.Bounded source := all_of_unwrapExports bounded unwrapped
      refine (gives_withDocComment innerBounded spannedBy).map fun chunk' spannedBy' => ?_
      intro chunk'' member
      obtain rfl := Option.mem_some_iff.1 member
      exact ⟨inner, unwrapped, spannedBy', declares⟩

/-- What one top-level statement is turned into. -/
def StatementChunk (source : Text) (statement : SyntaxTree) (found : Option Chunk) : Prop :=
  ∀ chunk ∈ found, ∃ inner,
    (unwrapExports statement).1 = some inner ∧ DeclaredBy source inner chunk

theorem gives_statementChunk {statement : SyntaxTree} (spanned : statement.Spanned source) :
    Gives (documented source statement) (StatementChunk source statement) := by
  refine (gives_statement spanned.bounded).imp fun found made chunk member => ?_
  obtain ⟨inner, unwrapped, spannedBy, declares⟩ := made chunk member
  exact ⟨inner, unwrapped, spannedBy.declaredBy (all_of_unwrapExports spanned unwrapped) declares⟩

/-- A source whose tree fits it, unless the tree has an error, either is one chunk, or its chunks
come from the statements of the tree in their order. -/
theorem gives_ofTree {tree : SyntaxTree}
    (spanned : tree.info.hasError = false → tree.Spanned source) :
    Gives (ofTree source tree) fun outcome =>
      (∃ kind name, outcome.chunks = [Chunk.wholeSource kind name source]) ∨
        tree.info.hasError = false ∧ outcome.chunks ≠ [] ∧
          ∃ found, outcome.chunks = found.filterMap id ∧
            List.Forall₂ (StatementChunk source) tree.namedChildren found := by
  unfold ofTree
  split
  · exact .pure (.inl ⟨_, _, rfl⟩)
  · next noError =>
      have noError' := Bool.eq_false_iff.2 noError
      have statementSpanned := spanned noError'
      refine Gives.bind _ (Gives.mapM fun statement member =>
        gives_statementChunk (statementSpanned.namedChild member)) fun found each => ?_
      split
      · exact .pure (.inl ⟨_, _, rfl⟩)
      · next notEmpty => exact .pure (.inr ⟨noError', notEmpty, found, rfl, each⟩)

end Declarations

end Segmentation
