import Segmentation.Proofs.Declarations.Order
import Segmentation.Proofs.Declarations.Places

/-!
# Statements that declare something

Whether a top-level statement has a chunk is a matter of types alone: the node inside its export
wrappers has to be of a type that chunks are made of, a function value has to be exported, and a
variable has to hold a function. A source whose tree fits it has exactly one chunk for each such
statement. The chunk is cut out of the source along the declaring node, byte for byte.
-/

namespace Segmentation

namespace Declarations

variable {source : Text} {node statement : SyntaxTree} {exported : Bool}

/-- Whether a node that no export wraps any more declares something. -/
def declares (node : SyntaxTree) (exported : Bool) : Bool :=
  functionDeclarations.contains node.type || (exported && functionValues.contains node.type) ||
    classDeclarations.contains node.type ||
    (variableDeclarations.contains node.type &&
      (node.namedChildren.findSome? functionDeclarator?).isSome) ||
    (typeDeclarations.map (·.1)).contains node.type

/-- The node by which a top-level statement declares something, if it does. -/
def declaration? (statement : SyntaxTree) : Option SyntaxTree :=
  match unwrapExports statement with
  | (some node, exported) => if declares node exported then some node else none
  | (none, _) => none

/-! ## What is found -/

theorem isSome_lookup (type : String) :
    (typeDeclarations.lookup type).isSome = (typeDeclarations.map (·.1)).contains type := by
  cases found : typeDeclarations.lookup type with
  | some keyword => rw [contains_of_lookup found, Option.isSome_some]
  | none =>
      rw [List.lookup_eq_none_iff] at found
      symm
      rw [Option.isSome_none, Bool.eq_false_iff, ne_eq, List.contains_iff_mem, List.mem_map]
      simp only [not_exists, not_and]
      rintro entry member rfl
      simpa using found entry member

/-- No type of node stands both for variables and for something on the level of types. -/
theorem lookup_eq_none_of_variable {type : String}
    (isVariable : variableDeclarations.contains type) : typeDeclarations.lookup type = none := by
  simp only [variableDeclarations, List.contains_iff_mem, List.mem_cons, List.not_mem_nil,
    or_false] at isVariable
  rcases isVariable with rfl | rfl <;> decide

/-- Of a step that may find a chunk: whether it does, and that the chunk is no part of another. -/
def FindsWhole (step : Except ChunkFailure (Option Chunk)) (expected : Bool) : Prop :=
  ∀ found, step = .ok found → found.isSome = expected ∧ ∀ chunk ∈ found, chunk.IsWhole

theorem findsWhole_map {step : Except ChunkFailure Chunk}
    (whole : ∀ chunk, step = .ok chunk → chunk.IsWhole) : FindsWhole (some <$> step) true := by
  intro found equal
  obtain ⟨chunk, made, rfl⟩ := map_eq_ok.1 equal
  refine ⟨rfl, fun chunk' member => ?_⟩
  obtain rfl := Option.mem_some_iff.1 member
  exact whole chunk made

theorem findsWhole_none : FindsWhole (.ok none) false := by
  intro found equal
  obtain rfl := Except.ok.inj equal
  exact ⟨rfl, by simp⟩

theorem findsWhole_variableChunk? (source : Text) (node : SyntaxTree) (exported : Bool) :
    FindsWhole (variableChunk? source node exported)
      (node.namedChildren.findSome? functionDeclarator?).isSome := by
  intro found equal
  refine ⟨?_, fun chunk member => (spannedBy_of_variableChunk? equal chunk member).isWhole⟩
  unfold variableChunk? at equal
  split at equal
  · next absent =>
      obtain rfl := Except.ok.inj equal
      rw [absent]
      rfl
  · next declarator value held =>
      obtain ⟨text, -, equal⟩ := bind_eq_ok.1 equal
      obtain ⟨name, -, equal⟩ := bind_eq_ok.1 equal
      obtain ⟨spanned, -, equal⟩ := bind_eq_ok.1 equal
      obtain rfl := Except.ok.inj equal
      rw [held]
      rfl

theorem findsWhole_classifyInner (source : Text) (node : SyntaxTree) (exported : Bool) :
    FindsWhole (classifyInner source node exported) (declares node exported) := by
  unfold classifyInner declares
  split
  · next function =>
      rw [function, Bool.true_or, Bool.true_or, Bool.true_or]
      exact findsWhole_map fun _ made => (spannedBy_of_functionChunk made).isWhole
  · next noFunction =>
      rw [Bool.eq_false_iff.2 noFunction, Bool.false_or]
      split
      · next isClass =>
          rw [isClass, Bool.true_or, Bool.true_or]
          exact findsWhole_map fun _ made => (spannedBy_of_namedChunk made).isWhole
      · next noClass =>
          rw [Bool.eq_false_iff.2 noClass, Bool.false_or, ← isSome_lookup]
          split
          · next isVariable =>
              rw [isVariable, Bool.true_and, lookup_eq_none_of_variable isVariable,
                Option.isSome_none, Bool.or_false]
              exact findsWhole_variableChunk? source node exported
          · next noVariable =>
              rw [Bool.eq_false_iff.2 noVariable, Bool.false_and, Bool.false_or]
              split
              · next keyword found =>
                  rw [found]
                  exact findsWhole_map fun _ made => (spannedBy_of_namedChunk made).isWhole
              · next noKeyword =>
                  rw [noKeyword]
                  exact findsWhole_none

theorem findsWhole_classify (source : Text) (statement : SyntaxTree) :
    FindsWhole (classify source statement) (declaration? statement).isSome := by
  unfold classify declaration?
  obtain ⟨inner, exported⟩ := unwrapExports statement
  cases inner with
  | none => exact findsWhole_none
  | some node =>
      have found := findsWhole_classifyInner source node exported
      cases declared : declares node exported <;> simpa [declared] using found

theorem findsWhole_documented (source : Text) (statement : SyntaxTree) :
    FindsWhole (documented source statement) (declaration? statement).isSome := by
  intro found equal
  obtain ⟨bare, classified, equal⟩ := bind_eq_ok.1 equal
  obtain ⟨same, whole⟩ := findsWhole_classify source statement bare classified
  cases bare with
  | none =>
      obtain rfl := Except.ok.inj equal
      exact ⟨same, by simp⟩
  | some chunk =>
      obtain ⟨documented, made, rfl⟩ := map_eq_ok.1 equal
      obtain ⟨comment, -, made⟩ := bind_eq_ok.1 made
      obtain ⟨isPartial, partNumber, totalParts, parentName, heading⟩ := whole chunk rfl
      obtain rfl := Except.ok.inj made
      refine ⟨same, fun chunk' member => ?_⟩
      obtain rfl := Option.mem_some_iff.1 member
      exact ⟨isPartial, partNumber, totalParts, parentName, heading⟩

theorem unwrapped_of_declaration? (declared : declaration? statement = some node) :
    (unwrapExports statement).1 = some node := by
  unfold declaration? at declared
  split at declared
  · next node' exported unwrapped =>
      split at declared
      · rw [unwrapped, ← declared]
      · exact absurd declared (by simp)
  · exact absurd declared (by simp)

/-! ## Chunks of statements -/

/-- The chunk that a top-level statement is turned into: it is that of the declaring node. -/
structure DeclaredIn (source : Text) (statement : SyntaxTree) (chunk : Chunk) : Prop where
  exists_node : ∃ node, declaration? statement = some node ∧ DeclaredBy source node chunk
  isWhole : chunk.IsWhole

/-- A statement has a chunk exactly when it declares something. -/
def Answers (source : Text) (statement : SyntaxTree) (found : Option Chunk) : Prop :=
  found.isSome = (declaration? statement).isSome ∧
    ∀ chunk ∈ found, DeclaredIn source statement chunk

theorem gives_answer (spanned : statement.Spanned source) :
    Gives (documented source statement) (Answers source statement) := by
  refine ((gives_statementChunk spanned).and_of_ok fun found equal =>
    findsWhole_documented source statement found equal).imp ?_
  rintro found ⟨made, same, whole⟩
  refine ⟨same, fun chunk member => ⟨?_, whole chunk member⟩⟩
  obtain ⟨inner, unwrapped, declaredBy⟩ := made chunk member
  obtain ⟨node, declared⟩ := Option.isSome_iff_exists.1 (same ▸ Option.isSome_of_mem member)
  have equal : some node = some inner := (unwrapped_of_declaration? declared).symm.trans unwrapped
  exact ⟨node, declared, Option.some.inj equal ▸ declaredBy⟩

/-! ## Chunks of a tree -/

/-- The top-level statements of a tree that declare something. -/
def declaring (tree : SyntaxTree) : List SyntaxTree :=
  tree.namedChildren.filter fun statement => (declaration? statement).isSome

/-- Leaving out statements that declare nothing leaves the others with their chunks. -/
theorem declaredIn_of_answers {statements : List SyntaxTree} {found : List (Option Chunk)}
    (answers : List.Forall₂ (Answers source) statements found) :
    List.Forall₂ (DeclaredIn source)
      (statements.filter fun statement => (declaration? statement).isSome)
      (found.filterMap id) := by
  induction answers with
  | nil => exact .nil
  | @cons statement answer statements found here later ih =>
      obtain ⟨same, declared⟩ := here
      cases answer with
      | none =>
          rw [List.filter_cons_of_neg (by rw [← same]; simp), List.filterMap_cons_none rfl]
          exact ih
      | some chunk =>
          rw [List.filter_cons_of_pos (by rw [← same]; rfl)]
          exact .cons (declared chunk rfl) ih

/-- A source whose tree stands for it and has no error has one chunk for each statement that
declares something, or one chunk in all when there is no such statement. -/
theorem gives_declared_ofTree {tree : SyntaxTree} (noError : tree.info.hasError = false)
    (spanned : tree.Spanned source) :
    Gives (ofTree source tree) fun outcome => outcome.diagnostic = none ∧
      (declaring tree = [] ∧ outcome.chunks = [Chunk.wholeSource .wholeModule "module" source] ∨
        declaring tree ≠ [] ∧
          List.Forall₂ (DeclaredIn source) (declaring tree) outcome.chunks) := by
  unfold ofTree
  rw [if_neg (by rw [noError]; exact Bool.false_ne_true)]
  refine Gives.bind _ (Gives.mapM fun statement member => gives_answer (spanned.namedChild member))
    fun found answers => ?_
  have declared : List.Forall₂ (DeclaredIn source) (declaring tree) (found.filterMap id) :=
    declaredIn_of_answers answers
  split
  · next noChunks =>
      rw [noChunks, List.forall₂_nil_right_iff] at declared
      exact .pure ⟨rfl, .inl ⟨declared, rfl⟩⟩
  · next hasChunks =>
      refine .pure ⟨rfl, .inr ⟨fun undeclared => hasChunks ?_, declared⟩⟩
      rwa [undeclared, List.forall₂_nil_left_iff] at declared

/-- What is cut out of a source for a statement that declares something: a piece of the statement
that holds exactly the bytes of the declaring node. -/
structure CutOut (source : Text) (statement : SyntaxTree) (chunk : Chunk) : Prop where
  inside : ∃ start stop : Nat, statement.info.Spans source start stop ∧
    start ≤ chunk.startOffset ∧ chunk.startOffset < chunk.endOffset ∧ chunk.endOffset ≤ stop
  content_eq : chunk.content = source.slice chunk.startOffset chunk.endOffset
  bytes : ∃ node, declaration? statement = some node ∧ chunk.content.utf8 =
    (source.utf8.drop node.info.startByte).take (node.info.endByte - node.info.startByte)

theorem DeclaredIn.cutOut {chunk : Chunk} (declared : DeclaredIn source statement chunk)
    (fits : statement.Fits source) (encloses : statement.All SyntaxTree.Encloses) :
    CutOut source statement chunk := by
  obtain ⟨node, declaredNode, declaredBy⟩ := declared.exists_node
  have unwrapped := unwrapped_of_declaration? declaredNode
  obtain ⟨start, stop, spans, startEqual, stopEqual⟩ := declaredBy.at_node
  obtain ⟨first, last, around, -⟩ := fits.root
  have filled := declaredBy.nonempty (all_of_unwrapExports fits unwrapped)
  obtain ⟨low, high⟩ := bytes_of_unwrapExports encloses unwrapped
  rw [around.startByte_eq, spans.startByte_eq] at low
  rw [around.endByte_eq, spans.endByte_eq] at high
  have first_le := Text.le_of_utf8Length_take_le
    (Nat.le_trans around.ordered around.inside) low
  have le_last := Text.le_of_utf8Length_take_le spans.inside high
  refine ⟨⟨first, last, around, by omega, filled, by omega⟩, declaredBy.content_eq, node,
    declaredNode, ?_⟩
  rw [declaredBy.content_eq, startEqual, stopEqual, Text.utf8_slice source spans.ordered,
    spans.startByte_eq, spans.endByte_eq]

theorem DeclaredIn.endOffset_le {left right : SyntaxTree} {chunk chunk' : Chunk}
    (declared : DeclaredIn source left chunk) (declared' : DeclaredIn source right chunk')
    (encloses : left.All SyntaxTree.Encloses) (encloses' : right.All SyntaxTree.Encloses)
    (before : left.info.endByte ≤ right.info.startByte) : chunk.endOffset ≤ chunk'.startOffset := by
  obtain ⟨node, declaredNode, declaredBy⟩ := declared.exists_node
  obtain ⟨node', declaredNode', declaredBy'⟩ := declared'.exists_node
  have stop := (bytes_of_unwrapExports encloses (unwrapped_of_declaration? declaredNode)).2
  have start := (bytes_of_unwrapExports encloses' (unwrapped_of_declaration? declaredNode')).1
  exact endOffset_le_startOffset declaredBy declaredBy' (by omega)

/-- The chunks of a source with the given tree: one for each statement that declares something, none
of which reaches into another, or one for all of the source where nothing is declared. -/
structure ChunksOf (source : Text) (tree : SyntaxTree) (chunks : List Chunk) : Prop where
  whole : declaring tree = [] → chunks = [Chunk.wholeSource .wholeModule "module" source]
  holdsAll : declaring tree = [] → ∀ chunk ∈ chunks, chunk.HoldsAll source
  cutOut : declaring tree ≠ [] → List.Forall₂ (CutOut source) (declaring tree) chunks
  apart : declaring tree ≠ [] → chunks.Pairwise fun left right =>
    left.startOffset < right.startOffset ∧ left.endOffset ≤ right.startOffset

/-- Reading a tree that fits its source, and whose statements follow one another, always succeeds:
each statement that declares something has its chunk, cut out byte for byte, and a source without
such a statement is one chunk. -/
theorem ofTree_declarations (source : Text) (tree : SyntaxTree)
    (noError : tree.info.hasError = false) (fits : tree.Fits source)
    (encloses : tree.All SyntaxTree.Encloses)
    (ordered : tree.namedChildren.Pairwise fun left right =>
      left.info.endByte ≤ right.info.startByte) :
    ∃ chunks, ofTree source tree = .ok { chunks } ∧ ChunksOf source tree chunks := by
  obtain ⟨⟨chunks, _⟩, equal, rfl, found⟩ := gives_declared_ofTree noError fits.spanned
  refine ⟨chunks, equal, ?_⟩
  rcases found with ⟨nothing, rfl⟩ | ⟨declares, each⟩
  · have whole := Chunk.holdsAll_wholeSource .wholeModule "module" source
    exact ⟨fun _ => rfl, fun _ => List.forall_mem_singleton.2 whole,
      fun declares => absurd nothing declares, fun declares => absurd nothing declares⟩
  · have inTree : ∀ statement ∈ declaring tree,
        statement.Fits source ∧ statement.All SyntaxTree.Encloses := by
      intro statement member
      have named := (List.mem_filter.1 member).1
      exact ⟨fits.namedChild named, encloses.namedChild named⟩
    have placed := (List.forall₂_and_left _ _).2 ⟨inTree, each⟩
    refine ⟨fun nothing => absurd nothing declares, fun nothing => absurd nothing declares,
      fun _ => ?cutOut, fun _ => ?apart⟩
    case cutOut =>
      exact placed.imp fun _ _ ⟨⟨fits, encloses⟩, declared⟩ => declared.cutOut fits encloses
    case apart =>
      refine pairwise_of_forall₂ ?_ placed (ordered.filter _)
      rintro left right chunk chunk' ⟨⟨leftFits, leftEncloses⟩, declared⟩
        ⟨⟨-, encloses'⟩, declared'⟩ before
      obtain ⟨_, _, _, _, filled, _⟩ := (declared.cutOut leftFits leftEncloses).inside
      have apart := declared.endOffset_le declared' leftEncloses encloses' before
      exact ⟨by omega, apart⟩

/-- The tree of the source `é;export class A{}`. -/
def exportedClass : SyntaxTree :=
  .node ⟨"program", 0, 19, ⟨0, 0⟩, ⟨0, 19⟩, true, false, false, false, none⟩
    [.node ⟨"expression_statement", 0, 3, ⟨0, 0⟩, ⟨0, 3⟩, true, false, false, false, none⟩
      [.node ⟨"identifier", 0, 2, ⟨0, 0⟩, ⟨0, 2⟩, true, false, false, false, none⟩ []],
    .node ⟨"export_statement", 3, 19, ⟨0, 3⟩, ⟨0, 19⟩, true, false, false, false, none⟩
      [.node ⟨"class_declaration", 10, 19, ⟨0, 10⟩, ⟨0, 19⟩, true, false, false, false,
          some "declaration"⟩
        [.node ⟨"identifier", 16, 17, ⟨0, 16⟩, ⟨0, 17⟩, true, false, false, false, some "name"⟩ [],
          .node ⟨"class_body", 17, 19, ⟨0, 17⟩, ⟨0, 19⟩, true, false, false, false, some "body"⟩
            []]]]

theorem exportedClass_fits : exportedClass.Fits "é;export class A\x7b\x7d".toList := by
  refine SyntaxTree.fits_node 0 18 (by decide) (by decide) ?_
  simp only [List.forall_mem_cons]
  refine ⟨SyntaxTree.fits_node 0 2 (by decide) (by decide) (List.forall_mem_singleton.2 ?_),
    SyntaxTree.fits_node 2 18 (by decide) (by decide) (List.forall_mem_singleton.2 ?_),
    List.forall_mem_nil _⟩
  · exact SyntaxTree.fits_node 0 1 (by decide) (by decide) (List.forall_mem_nil _)
  refine SyntaxTree.fits_node 9 18 (by decide) (by decide) ?_
  simp only [List.forall_mem_cons]
  exact ⟨SyntaxTree.fits_node 15 16 (by decide) (by decide) (List.forall_mem_nil _),
    SyntaxTree.fits_node 16 18 (by decide) (by decide) (List.forall_mem_nil _),
    List.forall_mem_nil _⟩

theorem exportedClass_encloses : exportedClass.All SyntaxTree.Encloses := by
  refine .node (by decide) ?_
  simp only [List.forall_mem_cons]
  refine ⟨.node (by decide) (List.forall_mem_singleton.2 ?_),
    .node (by decide) (List.forall_mem_singleton.2 ?_), List.forall_mem_nil _⟩
  · exact .node (by decide) (List.forall_mem_nil _)
  refine .node (by decide) ?_
  simp only [List.forall_mem_cons]
  exact ⟨.node (by decide) (List.forall_mem_nil _), .node (by decide) (List.forall_mem_nil _),
    List.forall_mem_nil _⟩

/-- An exported class behind a statement that declares nothing and is longer in bytes than in
characters. -/
theorem ofTree_declarations_exportedClass :
    ∃ statement chunk, declaring exportedClass = [statement] ∧
      ofTree "é;export class A\x7b\x7d".toList exportedClass = .ok { chunks := [chunk] } ∧
      CutOut "é;export class A\x7b\x7d".toList statement chunk ∧ chunk.range = (9, 18) := by
  obtain ⟨chunks, made, chunksOf⟩ := ofTree_declarations _ exportedClass rfl exportedClass_fits
    exportedClass_encloses (by decide)
  obtain ⟨statement, declares⟩ : ∃ statement, declaring exportedClass = [statement] :=
    List.length_eq_one_iff.1 (by decide +kernel)
  have cutOut := chunksOf.cutOut (by rw [declares]; exact List.cons_ne_nil _ _)
  rw [declares] at cutOut
  obtain ⟨chunk, others, cut, nothing, rfl⟩ := List.forall₂_cons_left_iff.1 cutOut
  obtain rfl := List.forall₂_nil_left_iff.1 nothing
  have places : (ofTree "é;export class A\x7b\x7d".toList exportedClass).map
      (·.chunks.map Chunk.range) = .ok [(9, 18)] := by decide +kernel
  rw [made] at places
  obtain ⟨place, -⟩ := List.cons.inj (Except.ok.inj places)
  exact ⟨statement, chunk, declares, made, cut, place⟩

end Declarations

end Segmentation
