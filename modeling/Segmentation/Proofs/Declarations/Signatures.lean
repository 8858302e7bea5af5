import Segmentation.Proofs.Declarations.Order
import Segmentation.Proofs.Text.Marks

/-!
# Signatures of functions

What stands in front of a function's body is its header, and the signature of a function should be
its header. A function declaration is cut at the body that its tree gives it. A function in a
variable is cut in the text, at the first brace of its declarator, and a header may hold braces of
its own: destructured parameters, defaults, types. So the signature of a variable is its header
exactly when the header holds no brace.
-/

namespace Segmentation.Declarations

variable {source : Text} {node declarator value body : SyntaxTree} {exported : Bool}
variable {start stop bodyStart bodyStop : Nat} {chunk : Chunk}

theorem signature_spanChunk {kind : ChunkKind} {name signature : Text}
    (made : spanChunk source node kind name signature exported = .ok chunk) :
    chunk.signature = some signature := by
  obtain ⟨⟨start, stop⟩, -, made⟩ := bind_eq_ok.1 made
  obtain rfl := Except.ok.inj made
  rfl

/-- The signature of a function declaration with a body is its header. -/
theorem signature_functionChunk (found : node.child? "body" = some body)
    (spans : node.info.Spans source start stop)
    (bodySpans : body.info.Spans source bodyStart bodyStop)
    (made : functionChunk source node exported = .ok chunk) :
    chunk.signature = some (source.slice start bodyStart).trim := by
  rw [functionChunk, span_eq spans, found] at made
  obtain ⟨⟨first, last⟩, place, made⟩ := bind_eq_ok.1 made
  obtain ⟨rfl, rfl⟩ := Prod.mk.inj (Except.ok.inj place)
  obtain ⟨cut, place, made⟩ := bind_eq_ok.1 made
  rw [bodySpans.charOffset_start] at place
  obtain rfl := Except.ok.inj place
  obtain ⟨signature, header, made⟩ := bind_eq_ok.1 made
  obtain rfl := Except.ok.inj header
  obtain ⟨name, -, made⟩ := bind_eq_ok.1 made
  obtain ⟨spanned, spannedBy, made⟩ := bind_eq_ok.1 made
  have signed := signature_spanChunk spannedBy
  obtain rfl := Except.ok.inj made
  exact signed

theorem slice_through {character : Char} {inner : Text}
    (spans : declarator.info.Spans source start stop)
    (bodySpans : body.info.Spans source bodyStart bodyStop)
    (first : declarator.info.startByte ≤ body.info.startByte)
    (last : body.info.endByte ≤ declarator.info.endByte)
    (starts : source.slice bodyStart bodyStop = character :: inner) :
    ∃ rest, source.slice start stop = source.slice start bodyStart ++ character :: rest := by
  have bodyOrdered := bodySpans.ordered
  have before : start ≤ bodyStart := Text.le_of_utf8Length_take_le
    (Nat.le_trans spans.ordered spans.inside)
    (by rwa [← spans.startByte_eq, ← bodySpans.startByte_eq])
  have within : bodyStop ≤ stop := Text.le_of_utf8Length_take_le bodySpans.inside
    (by rwa [← spans.endByte_eq, ← bodySpans.endByte_eq])
  refine ⟨inner ++ source.slice bodyStop stop, ?_⟩
  rw [← List.cons_append, ← starts, Text.slice_append_slice _ (by omega) (by omega) (by omega),
    Text.slice_append_slice _ (by omega) (by omega) (by omega)]

/-- The signature of a function in a variable is the text of its declarator up to the first brace,
with the placeholder for the body. -/
theorem gives_signature_variableChunk? (spanned : node.Spanned source)
    (first : node.namedChildren.findSome? functionDeclarator? = some (declarator, value))
    (spans : declarator.info.Spans source start stop) (exported : Bool) :
    Gives (variableChunk? source node exported) fun found => ∃ chunk, found = some chunk ∧
      chunk.signature = some (((source.slice start stop).before "\x7b").trim ++
        ' ' :: Chunk.bodyPlaceholder.toList) := by
  have declaratorSpanned : declarator.Spanned source :=
    spanned.namedChild (declarator_of_findSome? first).1
  unfold variableChunk?
  rw [first]
  refine Gives.bind (· = source.slice start stop) ⟨_, nodeText_eq spans, rfl⟩ fun text same => ?_
  refine Gives.bind _ (gives_nameOf declaratorSpanned.bounded) fun name _ => ?_
  obtain ⟨chunk, made, -⟩ := gives_spanChunk spanned.bounded .functionDeclaration name
    ((text.before "\x7b").trim ++ ' ' :: Chunk.bodyPlaceholder.toList) exported
  have signature := signature_spanChunk made
  rw [same] at signature
  exact Gives.bind (· = chunk) ⟨chunk, made, rfl⟩ fun _ equal =>
    .pure ⟨_, rfl, by rw [equal]; exact signature⟩

/-- A function in a variable, with a body in braces, has its header up to the first brace for its
signature. This is the whole header exactly when there is no brace in front of the body. -/
theorem signature_variableChunk?_iff (spanned : node.Spanned source)
    (encloses : node.All SyntaxTree.Encloses)
    (first : node.namedChildren.findSome? functionDeclarator? = some (declarator, value))
    (found : value.child? "body" = some body)
    (spans : declarator.info.Spans source start stop)
    (bodySpans : body.info.Spans source bodyStart bodyStop)
    (braced : (source.slice bodyStart bodyStop).head? = some '\x7b') (exported : Bool) :
    ∃ chunk, variableChunk? source node exported = .ok (some chunk) ∧
      chunk.signature = some (((source.slice start bodyStart).before "\x7b").trim ++
        ' ' :: Chunk.bodyPlaceholder.toList) ∧
      (chunk.signature = some ((source.slice start bodyStart).trim ++
          ' ' :: Chunk.bodyPlaceholder.toList) ↔
        '\x7b' ∉ source.slice start bodyStart) := by
  obtain ⟨member, valueFound⟩ := declarator_of_findSome? first
  have declaratorEncloses := encloses.namedChild member
  obtain ⟨valueFirst, valueLast⟩ :=
    declaratorEncloses.root value (List.mem_of_find?_eq_some valueFound)
  obtain ⟨bodyFirst, bodyLast⟩ :=
    (declaratorEncloses.child? valueFound).root body (List.mem_of_find?_eq_some found)
  obtain ⟨inner, starts⟩ := List.head?_eq_some_iff.1 braced
  obtain ⟨rest, whole⟩ := slice_through spans bodySpans (Nat.le_trans valueFirst bodyFirst)
    (Nat.le_trans bodyLast valueLast) starts
  obtain ⟨found, made, chunk, rfl, signature⟩ :=
    gives_signature_variableChunk? spanned first spans exported
  rw [whole, Text.before_append_character rfl] at signature
  refine ⟨chunk, made, signature, ?_⟩
  rw [signature, Option.some.injEq, List.append_left_inj]
  exact Text.trim_before_eq_iff rfl (by decide) _

/-- A function with a destructured parameter, in a variable. -/
def destructuringText : Text :=
  "const f = (\x7ba\x7d) => \x7b return a; \x7d;".toList

/-- The value of the variable. -/
def destructuringArrow : SyntaxTree :=
  .node ⟨"arrow_function", 10, 32, ⟨0, 10⟩, ⟨0, 32⟩, true, false, false, false, some "value"⟩
    [.node ⟨"formal_parameters", 10, 15, ⟨0, 10⟩, ⟨0, 15⟩, true, false, false, false,
        some "parameters"⟩ [],
      .node ⟨"=>", 16, 18, ⟨0, 16⟩, ⟨0, 18⟩, false, false, false, false, none⟩ [],
      .node ⟨"statement_block", 19, 32, ⟨0, 19⟩, ⟨0, 32⟩, true, false, false, false,
        some "body"⟩ []]

/-- The declaration of the variable. -/
def destructuringConst : SyntaxTree :=
  .node ⟨"lexical_declaration", 0, 33, ⟨0, 0⟩, ⟨0, 33⟩, true, false, false, false, none⟩
    [.node ⟨"const", 0, 5, ⟨0, 0⟩, ⟨0, 5⟩, false, false, false, false, some "kind"⟩ [],
      .node ⟨"variable_declarator", 6, 32, ⟨0, 6⟩, ⟨0, 32⟩, true, false, false, false, none⟩
        [.node ⟨"identifier", 6, 7, ⟨0, 6⟩, ⟨0, 7⟩, true, false, false, false, some "name"⟩ [],
          .node ⟨"=", 8, 9, ⟨0, 8⟩, ⟨0, 9⟩, false, false, false, false, none⟩ [],
          destructuringArrow],
      .node ⟨";", 32, 33, ⟨0, 32⟩, ⟨0, 33⟩, false, false, false, false, none⟩ []]

theorem destructuringConst_fits : destructuringConst.Fits destructuringText := by
  refine SyntaxTree.fits_node 0 33 (by decide) (by decide) ?_
  simp only [List.forall_mem_cons]
  refine ⟨SyntaxTree.fits_node 0 5 (by decide) (by decide) (List.forall_mem_nil _),
    SyntaxTree.fits_node 6 32 (by decide) (by decide) ?_,
    SyntaxTree.fits_node 32 33 (by decide) (by decide) (List.forall_mem_nil _),
    List.forall_mem_nil _⟩
  simp only [List.forall_mem_cons]
  refine ⟨SyntaxTree.fits_node 6 7 (by decide) (by decide) (List.forall_mem_nil _),
    SyntaxTree.fits_node 8 9 (by decide) (by decide) (List.forall_mem_nil _),
    SyntaxTree.fits_node 10 32 (by decide) (by decide) ?_, List.forall_mem_nil _⟩
  simp only [List.forall_mem_cons]
  exact ⟨SyntaxTree.fits_node 10 15 (by decide) (by decide) (List.forall_mem_nil _),
    SyntaxTree.fits_node 16 18 (by decide) (by decide) (List.forall_mem_nil _),
    SyntaxTree.fits_node 19 32 (by decide) (by decide) (List.forall_mem_nil _),
    List.forall_mem_nil _⟩

theorem destructuringConst_encloses : destructuringConst.All SyntaxTree.Encloses := by
  refine .node (by decide) ?_
  simp only [List.forall_mem_cons]
  refine ⟨.node (by decide) (List.forall_mem_nil _), .node (by decide) ?_,
    .node (by decide) (List.forall_mem_nil _), List.forall_mem_nil _⟩
  simp only [List.forall_mem_cons]
  refine ⟨.node (by decide) (List.forall_mem_nil _), .node (by decide) (List.forall_mem_nil _),
    .node (by decide) ?_, List.forall_mem_nil _⟩
  simp only [List.forall_mem_cons]
  exact ⟨.node (by decide) (List.forall_mem_nil _), .node (by decide) (List.forall_mem_nil _),
    .node (by decide) (List.forall_mem_nil _), List.forall_mem_nil _⟩

theorem signature_variableChunk?_iff_destructuringConst :
    ∃ chunk, variableChunk? destructuringText destructuringConst false = .ok (some chunk) ∧
      chunk.signature = some "f = ( \x7b...\x7d".toList := by
  obtain ⟨chunk, made, signature, -⟩ := signature_variableChunk?_iff
    destructuringConst_fits.spanned destructuringConst_encloses rfl rfl
    (show NodeInfo.Spans _ _ 6 32 by decide) (show NodeInfo.Spans _ _ 19 32 by decide)
    (by decide) false
  exact ⟨chunk, made, signature.trans (by decide)⟩

/-- The braces of a destructured parameter cut the signature off in the middle of the header. -/
theorem variableChunk?_cuts_parameters :
    ∃ chunk, variableChunk? destructuringText destructuringConst false = .ok (some chunk) ∧
      chunk.signature = some "f = ( \x7b...\x7d".toList ∧
      chunk.signature ≠ some ((destructuringText.slice 6 19).trim ++
        ' ' :: Chunk.bodyPlaceholder.toList) :=
  ⟨_, rfl, by decide, by decide⟩

end Segmentation.Declarations
