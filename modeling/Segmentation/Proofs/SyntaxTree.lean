import Segmentation.Declarations
import Segmentation.Proofs.Text.Utf8

/-!
# Syntax trees that fit their source

What is relied on when declarations are cut out along a syntax tree, however the tree was made: the
ranges of its nodes are those of pieces of the source, the rows of nodes count newlines, and nodes
that declare something are not empty.
-/

namespace Segmentation

namespace SyntaxTree

/-- A property of a tree and of everything below it. -/
inductive All (property : SyntaxTree → Prop) : SyntaxTree → Prop where
  | node {info : NodeInfo} {children : List SyntaxTree} (root : property (.node info children))
      (below : ∀ child ∈ children, All property child) : All property (.node info children)

namespace All

variable {property : SyntaxTree → Prop} {tree child : SyntaxTree} {field : String}

theorem root (all : tree.All property) : property tree := by
  cases all with
  | node root below => exact root

theorem of_mem_children (all : tree.All property) (member : child ∈ tree.children) :
    child.All property := by
  cases all with
  | node root below => exact below child member

theorem child? (all : tree.All property) (found : tree.child? field = some child) :
    child.All property :=
  all.of_mem_children (List.mem_of_find?_eq_some found)

theorem imp {weaker : SyntaxTree → Prop} (weaken : ∀ tree, property tree → weaker tree)
    (all : tree.All property) : tree.All weaker := by
  induction all with
  | node root below ih => exact .node (weaken _ root) ih

theorem namedChild (all : tree.All property) (member : child ∈ tree.namedChildren) :
    child.All property :=
  all.of_mem_children (List.mem_filter.1 member).1

end All

end SyntaxTree

/-- A node whose range is that of the characters from `start` to `stop`. -/
structure NodeInfo.Spans (info : NodeInfo) (source : Text) (start stop : Nat) : Prop where
  ordered : start ≤ stop
  inside : stop ≤ source.length
  startByte_eq : info.startByte = Text.utf8Length (source.take start)
  endByte_eq : info.endByte = Text.utf8Length (source.take stop)
  startRow_eq : info.startPoint.row = Text.newlines (source.take start)
  endRow_eq : info.endPoint.row = Text.newlines (source.take stop)

instance (info : NodeInfo) (source : Text) (start stop : Nat) :
    Decidable (info.Spans source start stop) :=
  decidable_of_iff (start ≤ stop ∧ stop ≤ source.length ∧
    info.startByte = Text.utf8Length (source.take start) ∧
    info.endByte = Text.utf8Length (source.take stop) ∧
    info.startPoint.row = Text.newlines (source.take start) ∧
    info.endPoint.row = Text.newlines (source.take stop))
    ⟨fun ⟨ordered, inside, startByte, endByte, startRow, endRow⟩ =>
      ⟨ordered, inside, startByte, endByte, startRow, endRow⟩,
    fun ⟨ordered, inside, startByte, endByte, startRow, endRow⟩ =>
      ⟨ordered, inside, startByte, endByte, startRow, endRow⟩⟩

/-- A node that starts and ends between two characters of the source, and on lines of it. -/
structure NodeInfo.Within (info : NodeInfo) (source : Text) : Prop where
  startByte : ∃ start ≤ source.length, info.startByte = Text.utf8Length (source.take start)
  endByte : ∃ stop ≤ source.length, info.endByte = Text.utf8Length (source.take stop)
  startRow_lt : info.startPoint.row < source.lines.length
  endRow_lt : info.endPoint.row < source.lines.length

namespace Declarations

/-- The node types that chunks are made of. -/
def declarationTypes : List String :=
  functionDeclarations ++ functionValues ++ classDeclarations ++ variableDeclarations ++
    typeDeclarations.map (·.1)

end Declarations

namespace SyntaxTree

/-- A node that stands for a piece of the source, and for some of it when it declares something. -/
def Placed (source : Text) (tree : SyntaxTree) : Prop :=
  ∃ start stop, tree.info.Spans source start stop ∧
    (Declarations.declarationTypes.contains tree.type → start < stop)

/-- A tree all of whose nodes stand for pieces of the source. -/
def Spanned (source : Text) (tree : SyntaxTree) : Prop :=
  tree.All fun node => ∃ start stop, node.info.Spans source start stop

/-- A tree all of whose nodes lie within the source. -/
def Bounded (source : Text) (tree : SyntaxTree) : Prop :=
  tree.All fun node => node.info.Within source

/-- A tree all of whose nodes stand for pieces of the source, and declarations for some of it. -/
def Fits (source : Text) (tree : SyntaxTree) : Prop :=
  tree.All (Placed source)

theorem Fits.spanned {source : Text} {tree : SyntaxTree} (fits : tree.Fits source) :
    tree.Spanned source :=
  fits.imp fun _ ⟨start, stop, spans, _⟩ => ⟨start, stop, spans⟩

theorem fits_node {source : Text} {info : NodeInfo} {children : List SyntaxTree} (start stop : Nat)
    (spans : info.Spans source start stop) (filled : start < stop)
    (below : ∀ child ∈ children, child.Fits source) :
    (SyntaxTree.node info children).Fits source :=
  .node ⟨start, stop, spans, fun _ => filled⟩ below

end SyntaxTree

end Segmentation
