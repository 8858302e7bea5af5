import Segmentation.Proofs.Declarations.Chunks

/-!
# Order of declarations

In a tree whose nodes hold their children one after the other, the chunks of top-level statements
follow one another without overlapping.
-/

namespace Segmentation

namespace SyntaxTree

/-- A node that lies around all of its children. -/
def Encloses (tree : SyntaxTree) : Prop :=
  ∀ child ∈ tree.children,
    tree.info.startByte ≤ child.info.startByte ∧ child.info.endByte ≤ tree.info.endByte

instance (tree : SyntaxTree) : Decidable tree.Encloses :=
  inferInstanceAs (Decidable (∀ child ∈ tree.children, _))

/-- A node that holds its children one after the other. -/
structure InOrder (tree : SyntaxTree) : Prop where
  inside : ∀ child ∈ tree.children,
    tree.info.startByte ≤ child.info.startByte ∧ child.info.endByte ≤ tree.info.endByte
  disjoint : tree.children.Pairwise fun left right => left.info.endByte ≤ right.info.startByte

instance (tree : SyntaxTree) : Decidable tree.InOrder :=
  decidable_of_iff ((∀ child ∈ tree.children, tree.info.startByte ≤ child.info.startByte ∧
      child.info.endByte ≤ tree.info.endByte) ∧
    tree.children.Pairwise fun left right => left.info.endByte ≤ right.info.startByte)
    ⟨fun ⟨inside, disjoint⟩ => ⟨inside, disjoint⟩, fun ⟨inside, disjoint⟩ => ⟨inside, disjoint⟩⟩

end SyntaxTree

namespace Declarations

variable {source : Text}

/-- What export wrappers hold lies inside them. -/
theorem bytes_of_unwrapExports {statement inner : SyntaxTree}
    (encloses : statement.All SyntaxTree.Encloses)
    (unwrapped : (unwrapExports statement).1 = some inner) :
    statement.info.startByte ≤ inner.info.startByte ∧
      inner.info.endByte ≤ statement.info.endByte := by
  refine (of_unwrapExports (fun tree => tree.All SyntaxTree.Encloses ∧
    statement.info.startByte ≤ tree.info.startByte ∧
    tree.info.endByte ≤ statement.info.endByte) ?_ ⟨encloses, Nat.le_refl _, Nat.le_refl _⟩
    unwrapped).2
  rintro tree child ⟨all, start, stop⟩ member
  obtain ⟨low, high⟩ := all.root child member
  exact ⟨all.of_mem_children member, Nat.le_trans start low, Nat.le_trans high stop⟩

/-- A declaration that ends in bytes before another one starts does so in characters. -/
theorem endOffset_le_startOffset {left right : SyntaxTree} {chunk chunk' : Chunk}
    (declared : DeclaredBy source left chunk) (declared' : DeclaredBy source right chunk')
    (before : left.info.endByte ≤ right.info.startByte) :
    chunk.endOffset ≤ chunk'.startOffset := by
  obtain ⟨start, stop, spans, -, stopEqual⟩ := declared.at_node
  obtain ⟨start', stop', spans', startEqual, -⟩ := declared'.at_node
  rw [spans.endByte_eq, spans'.startByte_eq] at before
  have := Text.le_of_utf8Length_take_le spans.inside before
  omega

theorem statementChunk_disjoint {left right : SyntaxTree} {found found' : Option Chunk}
    (made : StatementChunk source left found) (made' : StatementChunk source right found')
    (encloses : left.All SyntaxTree.Encloses) (encloses' : right.All SyntaxTree.Encloses)
    (before : left.info.endByte ≤ right.info.startByte) :
    ∀ chunk ∈ found, ∀ chunk' ∈ found', chunk.endOffset ≤ chunk'.startOffset := by
  intro chunk member chunk' member'
  obtain ⟨inner, unwrapped, declared⟩ := made chunk member
  obtain ⟨inner', unwrapped', declared'⟩ := made' chunk' member'
  have stop := (bytes_of_unwrapExports encloses unwrapped).2
  have start := (bytes_of_unwrapExports encloses' unwrapped').1
  exact endOffset_le_startOffset declared declared' (by omega)

/-- The chunks of a source follow one another. -/
theorem gives_disjoint_ofTree {tree : SyntaxTree}
    (spanned : tree.info.hasError = false → tree.Spanned source)
    (ordered : tree.info.hasError = false → tree.All SyntaxTree.InOrder) :
    Gives (ofTree source tree) fun outcome =>
      outcome.chunks.Pairwise fun left right => left.endOffset ≤ right.startOffset := by
  refine (gives_ofTree spanned).imp fun outcome cases => ?_
  rcases cases with ⟨kind, name, whole⟩ | ⟨noError, -, found, equal, each⟩
  · rw [whole]
    exact List.pairwise_singleton _ _
  · have encloses : tree.All SyntaxTree.Encloses :=
      (ordered noError).imp fun _ inOrder => inOrder.inside
    have statements : tree.namedChildren.Pairwise fun left right =>
        left.All SyntaxTree.Encloses ∧ right.All SyntaxTree.Encloses ∧
          left.info.endByte ≤ right.info.startByte := by
      refine ((ordered noError).root.disjoint.filter _).imp_of_mem ?_
      intro left right leftMember rightMember before
      exact ⟨encloses.namedChild leftMember, encloses.namedChild rightMember, before⟩
    rw [equal, List.pairwise_filterMap]
    refine pairwise_of_forall₂ ?_ each statements
    rintro left right found found' made made' ⟨leftEncloses, rightEncloses, before⟩
    exact statementChunk_disjoint made made' leftEncloses rightEncloses before

end Declarations

end Segmentation
