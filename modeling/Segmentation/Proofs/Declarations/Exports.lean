import Mathlib.Logic.Relation
import Segmentation.Proofs.Declarations.Chunks

/-!
# Exports

An export statement wraps what it exports, and wrappers may be nested. However many there are, what
is exported has the chunk that it has without them, but for the mark that says so. A function value
is the one thing that is a declaration only when it is exported. An export that holds nothing gives
nothing.
-/

namespace Segmentation

/-- The chunk with the mark of an exported declaration. -/
def Chunk.exported (chunk : Chunk) : Chunk :=
  { chunk with isExported := true }

namespace SyntaxTree

/-- An export statement around a node: it holds the node as its declaration, or as its value when it
has no declaration. -/
structure Wraps (statement node : SyntaxTree) : Prop where
  type_eq : statement.type = "export_statement"
  holds : statement.child? "declaration" = some (node.withField "declaration") ∨
    statement.child? "declaration" = none ∧ statement.child? "value" = some (node.withField "value")

/-- An export statement around nothing. -/
structure WrapsNothing (statement : SyntaxTree) : Prop where
  type_eq : statement.type = "export_statement"
  declaration_eq : statement.child? "declaration" = none
  value_eq : statement.child? "value" = none

@[simp] theorem type_withField (tree : SyntaxTree) (field : String) :
    (tree.withField field).type = tree.type := by
  cases tree
  rfl

@[simp] theorem field_withField (tree : SyntaxTree) (field : String) :
    (tree.withField field).info.field = some field := by
  cases tree
  rfl

@[simp] theorem child?_withField (tree : SyntaxTree) (field part : String) :
    (tree.withField field).child? part = tree.child? part := by
  cases tree
  rfl

theorem child?_of_first {info : NodeInfo} {before after : List SyntaxTree} {node : SyntaxTree}
    {field : String} (first : ∀ child ∈ before, child.info.field ≠ some field) :
    (SyntaxTree.node info (before ++ node.withField field :: after)).child? field =
      some (node.withField field) := by
  rw [child?, children, List.find?_append, List.find?_eq_none.2 (by simpa using first),
    Option.none_or, List.find?_cons_of_pos (by simp)]

/-- A node is wrapped by putting it among other children as the declaration. -/
theorem wraps_declaration {info : NodeInfo} (type_eq : info.type = "export_statement")
    (before after : List SyntaxTree)
    (first : ∀ child ∈ before, child.info.field ≠ some "declaration") (node : SyntaxTree) :
    (SyntaxTree.node info (before ++ node.withField "declaration" :: after)).Wraps node :=
  ⟨type_eq, .inl (child?_of_first first)⟩

/-- Without a declaration among the children, it is wrapped as the value. -/
theorem wraps_value {info : NodeInfo} (type_eq : info.type = "export_statement")
    (before after : List SyntaxTree)
    (first : ∀ child ∈ before, child.info.field ≠ some "value")
    (noDeclaration : ∀ child ∈ before ++ after, child.info.field ≠ some "declaration")
    (node : SyntaxTree) :
    (SyntaxTree.node info (before ++ node.withField "value" :: after)).Wraps node := by
  refine ⟨type_eq, .inr ⟨List.find?_eq_none.2 fun child member => ?_, child?_of_first first⟩⟩
  rw [beq_iff_eq]
  rcases List.mem_append.1 member with front | rest
  · exact noDeclaration child (List.mem_append_left _ front)
  · rcases List.mem_cons.1 rest with rfl | back
    · simp
    · exact noDeclaration child (List.mem_append_right _ back)

end SyntaxTree

namespace Declarations

open SyntaxTree

variable {source : Text} {statement node : SyntaxTree}

/-! ## Wrappers -/

theorem unwrapExports_of_ne (plain : node.type ≠ "export_statement") :
    unwrapExports node = (some node, false) := by
  rw [unwrapExports, if_neg plain]

theorem unwrapExports_of_eq (wrapper : statement.type = "export_statement") :
    unwrapExports statement =
      (((statement.child? "declaration").or (statement.child? "value")).bind fun inner =>
        (unwrapExports inner).1, true) := by
  rw [unwrapExports, if_pos wrapper]
  split
  · next inner found => rw [found]; rfl
  · next noDeclaration =>
      rw [noDeclaration, Option.none_or]
      split
      · next inner found => rw [found]; rfl
      · next noValue => rw [noValue]; rfl

/-- The part that a node plays for its parent is nothing to itself. -/
theorem classifyInner_withField (source : Text) (node : SyntaxTree) (field : String)
    (exported : Bool) :
    classifyInner source (node.withField field) exported = classifyInner source node exported := by
  cases node
  rfl

/-- The chunk of what an export statement holds. -/
def classifyExported (source : Text) (node : SyntaxTree) : Except ChunkFailure (Option Chunk) :=
  match (unwrapExports node).1 with
  | some inner => classifyInner source inner true
  | none => .ok none

theorem classifyExported_withField (source : Text) (node : SyntaxTree) (field : String) :
    classifyExported source (node.withField field) = classifyExported source node := by
  rw [classifyExported, classifyExported]
  by_cases wrapper : node.type = "export_statement"
  · rw [unwrapExports_of_eq wrapper, unwrapExports_of_eq (by rw [type_withField, wrapper]),
      child?_withField, child?_withField]
  · rw [unwrapExports_of_ne wrapper, unwrapExports_of_ne (by rwa [type_withField])]
    exact classifyInner_withField source node field true

theorem classify_of_eq (wrapper : statement.type = "export_statement") :
    classify source statement = classifyExported source statement := by
  rw [classify, classifyExported, unwrapExports_of_eq wrapper]
  cases ((statement.child? "declaration").or (statement.child? "value")).bind fun inner =>
    (unwrapExports inner).1 <;> rfl

theorem classifyExported_of_wraps (wraps : statement.Wraps node) :
    classifyExported source statement = classifyExported source node := by
  obtain ⟨field, held⟩ : ∃ field, (statement.child? "declaration").or (statement.child? "value") =
      some (node.withField field) := by
    rcases wraps.holds with held | ⟨noDeclaration, held⟩
    · exact ⟨_, by rw [held, Option.some_or]⟩
    · exact ⟨_, by rw [noDeclaration, held, Option.none_or]⟩
  rw [← classifyExported_withField source node field, classifyExported,
    unwrapExports_of_eq wraps.type_eq, held, Option.bind_some, classifyExported]

theorem classifyExported_of_reflTransGen (wrapped : Relation.ReflTransGen Wraps statement node) :
    classifyExported source statement = classifyExported source node := by
  induction wrapped with
  | refl => rfl
  | tail _ wraps ih => rw [ih, classifyExported_of_wraps wraps]

theorem classify_of_transGen (wrapped : Relation.TransGen Wraps statement node) :
    classify source statement = classifyExported source node := by
  obtain ⟨inner, wraps, others⟩ := Relation.TransGen.head'_iff.1 wrapped
  rw [classify_of_eq wraps.type_eq, classifyExported_of_wraps wraps,
    classifyExported_of_reflTransGen others]

/-! ## Marks -/

theorem spanChunk_exported (source : Text) (node : SyntaxTree) (kind : ChunkKind)
    (name signature : Text) : spanChunk source node kind name signature true =
      Chunk.exported <$> spanChunk source node kind name signature false :=
  bind_eq_map fun _ => rfl

theorem namedChunk_exported (source : Text) (node : SyntaxTree) (kind : ChunkKind)
    (keyword : String) : namedChunk source node kind keyword true =
      Chunk.exported <$> namedChunk source node kind keyword false :=
  bind_eq_map fun _ => spanChunk_exported _ _ _ _ _

theorem functionChunk_exported (source : Text) (node : SyntaxTree) :
    functionChunk source node true = Chunk.exported <$> functionChunk source node false := by
  rw [functionChunk_eq, functionChunk_eq]
  refine bind_eq_map fun header => bind_eq_map fun name => ?_
  rw [spanChunk_exported]
  exact map_bind_eq_map fun _ => rfl

theorem variableChunk?_exported (source : Text) (node : SyntaxTree) :
    variableChunk? source node true =
      Option.map Chunk.exported <$> variableChunk? source node false := by
  unfold variableChunk?
  split
  · rfl
  · refine bind_eq_map fun text => bind_eq_map fun name => ?_
    dsimp only
    rw [spanChunk_exported]
    exact map_bind_eq_map fun _ => rfl

/-- A node that is no function value has the same chunk when it is exported, but for the mark. -/
theorem classifyInner_exported (noValue : functionValues.contains node.type = false) :
    classifyInner source node true =
      Option.map Chunk.exported <$> classifyInner source node false := by
  have sure {step step' : Except ChunkFailure Chunk} (marked : step' = Chunk.exported <$> step) :
      some <$> step' = Option.map Chunk.exported <$> some <$> step := by
    rw [marked]
    cases step <;> rfl
  rw [classifyInner, classifyInner, noValue, Bool.and_false, Bool.and_false]
  split
  · exact sure (functionChunk_exported source node)
  · split
    · exact sure (namedChunk_exported source node _ _)
    · split
      · exact variableChunk?_exported source node
      · split
        · exact sure (namedChunk_exported source node _ _)
        · rfl

theorem withDocComment_exported (lines : List Text) (chunk : Chunk) :
    withDocComment lines chunk.exported = Chunk.exported <$> withDocComment lines chunk :=
  bind_eq_map fun _ => rfl

/-- A function value is no declaration by itself. -/
theorem classifyInner_of_functionValue (value : functionValues.contains node.type = true) :
    classifyInner source node false = .ok none ∧
      classifyInner source node true = some <$> functionChunk source node true := by
  have types : ∀ type ∈ functionValues, functionDeclarations.contains type = false ∧
      classDeclarations.contains type = false ∧ variableDeclarations.contains type = false ∧
      typeDeclarations.lookup type = none := by decide
  obtain ⟨noFunction, noClass, noVariable, noType⟩ := types _ (List.contains_iff_mem.1 value)
  rw [classifyInner, classifyInner, noFunction, noClass, noVariable, noType, value]
  exact ⟨rfl, rfl⟩

/-! ## Exported statements -/

theorem documented_of_ne (plain : node.type ≠ "export_statement") : documented source node = (do
    (← classifyInner source node false).mapM (withDocComment source.lines)) := by
  rw [documented, classify, unwrapExports_of_ne plain]

theorem documented_of_transGen (plain : node.type ≠ "export_statement")
    (wrapped : Relation.TransGen Wraps statement node) : documented source statement = (do
      (← classifyInner source node true).mapM (withDocComment source.lines)) := by
  rw [documented, classify_of_transGen wrapped, classifyExported, unwrapExports_of_ne plain]

theorem documented_exported (plain : node.type ≠ "export_statement")
    (noValue : functionValues.contains node.type = false)
    (wrapped : Relation.TransGen Wraps statement node) :
    documented source statement = Option.map Chunk.exported <$> documented source node := by
  rw [documented_of_transGen plain wrapped, documented_of_ne plain, classifyInner_exported noValue]
  refine map_bind_eq_map fun found => ?_
  cases found with
  | none => rfl
  | some chunk =>
      rw [Option.map_some, Option.mapM_some, Option.mapM_some, withDocComment_exported]
      cases withDocComment source.lines chunk <;> rfl

/-- A chunk of a function that stands where a node does, with the documentation above it. -/
structure FunctionOf (source : Text) (node : SyntaxTree) (chunk : Chunk) : Prop
    extends SpannedBy source node chunk where
  made : (functionChunk source node false >>= withDocComment source.lines) = .ok chunk
  kind_eq : chunk.kind = .functionDeclaration

theorem functionOf_of_ok {bare chunk : Chunk} (made : functionChunk source node false = .ok bare)
    (commented : withDocComment source.lines bare = .ok chunk) : FunctionOf source node chunk := by
  refine ⟨(spannedBy_of_functionChunk made).documented commented,
    bind_eq_ok.2 ⟨bare, made, commented⟩, ?_⟩
  rw [functionChunk_eq] at made
  obtain ⟨header, -, made⟩ := bind_eq_ok.1 made
  obtain ⟨name, -, made⟩ := bind_eq_ok.1 made
  obtain ⟨spanned, spannedBy, made⟩ := bind_eq_ok.1 made
  obtain ⟨place, -, spannedBy⟩ := bind_eq_ok.1 spannedBy
  obtain ⟨comment, -, commented⟩ := bind_eq_ok.1 commented
  rw [← Except.ok.inj commented, ← Except.ok.inj made, ← Except.ok.inj spannedBy]

theorem exists_functionOf (plain : node.type ≠ "export_statement")
    (value : functionValues.contains node.type = true) (bounded : node.Bounded source)
    (wrapped : Relation.TransGen Wraps statement node) :
    ∃ chunk, FunctionOf source node chunk ∧
      documented source statement = .ok (some chunk.exported) := by
  obtain ⟨bare, made, spannedBy⟩ := gives_functionChunk bounded false
  obtain ⟨chunk, commented, -⟩ := gives_withDocComment bounded spannedBy
  refine ⟨chunk, functionOf_of_ok made commented, ?_⟩
  rw [documented_of_transGen plain wrapped, (classifyInner_of_functionValue value).2,
    functionChunk_exported, made]
  change some <$> withDocComment source.lines bare.exported = _
  rw [withDocComment_exported, commented]
  rfl

theorem documented_of_hollow {hollow : SyntaxTree} (nothing : hollow.WrapsNothing)
    (wrapped : Relation.ReflTransGen Wraps statement hollow) :
    documented source statement = .ok none := by
  have unwrapped : unwrapExports hollow = (none, true) := by
    rw [unwrapExports_of_eq nothing.type_eq, nothing.declaration_eq, nothing.value_eq]
    rfl
  have exported : statement.type = "export_statement" := by
    rcases Relation.ReflTransGen.cases_head wrapped with rfl | ⟨inner, wraps, -⟩
    · exact nothing.type_eq
    · exact wraps.type_eq
  rw [documented, classify_of_eq exported, classifyExported_of_reflTransGen wrapped,
    classifyExported, unwrapped]
  rfl

/-- Any number of export statements around a node that lies within the source leaves it with the
chunk that it has by itself, marked as exported, or with none as by itself. A function value has
none by itself and that of a function when it is exported. Export statements around nothing have no
chunk. -/
theorem documented_wrapped (source : Text) (statement : SyntaxTree) :
    (∀ node, node.type ≠ "export_statement" → node.Bounded source →
      Relation.TransGen Wraps statement node →
      ∃ found, documented source node = .ok found ∧
        (functionValues.contains node.type = false →
          documented source statement = .ok (found.map Chunk.exported)) ∧
        (functionValues.contains node.type = true → found = none ∧
          ∃ chunk, FunctionOf source node chunk ∧
            documented source statement = .ok (some chunk.exported))) ∧
    (∀ hollow, hollow.WrapsNothing → Relation.ReflTransGen Wraps statement hollow →
      documented source statement = .ok none) := by
  refine ⟨fun node plain bounded wrapped => ?_, fun hollow nothing wrapped =>
    documented_of_hollow nothing wrapped⟩
  obtain ⟨found, bare, -⟩ := gives_statement bounded
  refine ⟨found, bare, fun noValue => ?_, fun value => ⟨?_, ?_⟩⟩
  · rw [documented_exported plain noValue wrapped, bare]
    rfl
  · have undocumented : documented source node = .ok none := by
      rw [documented_of_ne plain, (classifyInner_of_functionValue value).1]
      rfl
    exact Except.ok.inj (bare.symm.trans undocumented)
  · exact exists_functionOf plain value bounded wrapped

/-- An export statement at the start of a source, with the given children. -/
def exporting (stop : Nat) (children : List SyntaxTree) : SyntaxTree :=
  .node ⟨"export_statement", 0, stop, ⟨0, 0⟩, ⟨0, stop⟩, true, false, false, false, none⟩ children

/-- The class of `export class A{}`. -/
def innerClass : SyntaxTree :=
  .node ⟨"class_declaration", 7, 16, ⟨0, 7⟩, ⟨0, 16⟩, true, false, false, false, none⟩
    [.node ⟨"identifier", 13, 14, ⟨0, 13⟩, ⟨0, 14⟩, true, false, false, false, some "name"⟩ []]

/-- The function value of `export default () => 1`. -/
def innerArrow : SyntaxTree :=
  .node ⟨"arrow_function", 15, 22, ⟨0, 15⟩, ⟨0, 22⟩, true, false, false, false, none⟩
    [.node ⟨"number", 21, 22, ⟨0, 21⟩, ⟨0, 22⟩, true, false, false, false, some "body"⟩ []]

theorem innerClass_bounded : innerClass.Bounded "export class A\x7b\x7d".toList :=
  (fits_node 7 16 (by decide) (by decide) (List.forall_mem_singleton.2
    (fits_node 13 14 (by decide) (by decide) (List.forall_mem_nil _)))).spanned.bounded

theorem innerArrow_bounded : innerArrow.Bounded "export default () => 1".toList :=
  (fits_node 15 22 (by decide) (by decide) (List.forall_mem_singleton.2
    (fits_node 21 22 (by decide) (by decide) (List.forall_mem_nil _)))).spanned.bounded

/-- A class in two export statements, a function value in one, and nothing in two. -/
theorem documented_wrapped_twice :
    (∃ found, documented "export class A\x7b\x7d".toList innerClass = .ok found ∧
      documented "export class A\x7b\x7d".toList
        (exporting 16 [(exporting 16 [innerClass.withField "declaration"]).withField "value"]) =
          .ok (found.map Chunk.exported)) ∧
    (documented "export default () => 1".toList innerArrow = .ok none ∧
      ∃ chunk, FunctionOf "export default () => 1".toList innerArrow chunk ∧
        documented "export default () => 1".toList (exporting 22 [innerArrow.withField "value"]) =
          .ok (some chunk.exported)) ∧
    documented [] (exporting 0 [(exporting 0 []).withField "declaration"]) = .ok none := by
  have noChild (field : String) : ∀ child ∈ ([] : List SyntaxTree), child.info.field ≠ some field :=
    List.forall_mem_nil _
  have asDeclaration (stop : Nat) (node : SyntaxTree) :
      (exporting stop [node.withField "declaration"]).Wraps node :=
    wraps_declaration rfl [] [] (noChild _) node
  have asValue (stop : Nat) (node : SyntaxTree) :
      (exporting stop [node.withField "value"]).Wraps node :=
    wraps_value rfl [] [] (noChild _) (noChild _) node
  obtain ⟨found, bare, marked, -⟩ := (documented_wrapped _ _).1 innerClass (by decide)
    innerClass_bounded (.head (asValue 16 _) (.single (asDeclaration 16 innerClass)))
  obtain ⟨found', bare', -, value⟩ := (documented_wrapped _ _).1 innerArrow (by decide)
    innerArrow_bounded (.single (asValue 22 innerArrow))
  obtain ⟨rfl, chunk, function, made⟩ := value (by decide)
  refine ⟨⟨found, bare, marked (by decide)⟩, ⟨bare', chunk, function, made⟩, ?_⟩
  exact (documented_wrapped _ _).2 (exporting 0 []) ⟨rfl, rfl, rfl⟩ (.single (asDeclaration 0 _))

end Declarations

end Segmentation
