import Segmentation.Text.Basic

/-!
# Syntax trees

The tree of a source in the form that grammars give it: every node has a type, a range of bytes with
the points at which it starts and ends, and children. A node whose text fits no rule is an error, a
node that the grammar had to invent is missing, and `hasError` says that such a node lies at or
below a node. Nodes for fixed words and signs are unnamed.
-/

namespace Segmentation

/-- A place in a source: its row, and its column in bytes, both counted from zero. -/
structure Point where
  row : Nat
  column : Nat
  deriving DecidableEq, Repr, Inhabited

/-- What a node says about itself, apart from its children. -/
structure NodeInfo where
  type : String
  startByte : Nat
  endByte : Nat
  startPoint : Point
  endPoint : Point
  isNamed : Bool := true
  isError : Bool := false
  isMissing : Bool := false
  hasError : Bool := false
  /-- The part that the node plays in its parent. -/
  field : Option String := none
  deriving DecidableEq, Repr, Inhabited

/-- A node with its children in source order. -/
inductive SyntaxTree where
  | node (info : NodeInfo) (children : List SyntaxTree)
  deriving Inhabited

namespace SyntaxTree

/-- What the root says about itself. -/
def info : SyntaxTree → NodeInfo
  | node info _ => info

/-- The children of the root. -/
def children : SyntaxTree → List SyntaxTree
  | node _ children => children

/-- The type of the root. -/
def type (tree : SyntaxTree) : String :=
  tree.info.type

/-- The children that are not fixed words or signs. -/
def namedChildren (tree : SyntaxTree) : List SyntaxTree :=
  tree.children.filter (·.info.isNamed)

/-- The first child that plays the given part. -/
def child? (tree : SyntaxTree) (field : String) : Option SyntaxTree :=
  tree.children.find? (·.info.field == some field)

/-- The tree with its root playing the given part in its parent. -/
def withField (tree : SyntaxTree) (field : String) : SyntaxTree :=
  match tree with
  | node info children => node { info with field := some field } children

mutual

/-- The number of nodes of a tree. -/
def size : SyntaxTree → Nat
  | node _ children => 1 + totalSize children

/-- The number of nodes of several trees. -/
def totalSize : List SyntaxTree → Nat
  | [] => 0
  | tree :: others => size tree + totalSize others

end

theorem totalSize_append (left right : List SyntaxTree) :
    totalSize (left ++ right) = totalSize left + totalSize right := by
  induction left with
  | nil => simp [totalSize]
  | cons tree others ih => simp only [List.cons_append, totalSize, ih]; omega

theorem size_pos (tree : SyntaxTree) : 0 < tree.size := by
  cases tree
  simp only [size]
  omega

theorem size_le_totalSize {tree : SyntaxTree} {trees : List SyntaxTree} (member : tree ∈ trees) :
    tree.size ≤ totalSize trees := by
  induction trees with
  | nil => simp at member
  | cons head others ih =>
      rcases List.mem_cons.1 member with rfl | inside
      · simp only [totalSize]; omega
      · have := ih inside
        simp only [totalSize]; omega

/-- A tree is larger than each of its children. -/
theorem size_lt_of_mem_children {child tree : SyntaxTree} (member : child ∈ tree.children) :
    child.size < tree.size := by
  cases tree with
  | node info children =>
      have := size_le_totalSize (show child ∈ children from member)
      simp only [size]; omega

/-- A tree is larger than the child that plays some part in it. -/
theorem size_lt_of_child? {child tree : SyntaxTree} {field : String}
    (found : tree.child? field = some child) : child.size < tree.size :=
  size_lt_of_mem_children (List.mem_of_find?_eq_some found)

/-! ## Faults -/

/-- The first error or missing node on a stack of trees, in document order. Trees without the error
mark are passed over whole. -/
def searchFault : List SyntaxTree → Option SyntaxTree
  | [] => none
  | tree :: stack =>
      if tree.info.isError || tree.info.isMissing then some tree
      else if tree.info.hasError then searchFault (tree.children ++ stack)
      else searchFault stack
termination_by stack => totalSize stack
decreasing_by
  · cases tree with
    | node info children =>
        simp only [totalSize_append, totalSize, size, SyntaxTree.children]
        omega
  · have := size_pos tree
    simp only [totalSize]; omega

/-- The first error or missing node of a tree. -/
def firstFault? (tree : SyntaxTree) : Option SyntaxTree :=
  searchFault [tree]

/-- What is wrong with a tree that has an error, and where: a missing node is named by its type.
Rows and columns are counted from one. -/
def diagnostic (tree : SyntaxTree) : Text :=
  let fault := tree.firstFault?.getD tree
  let place :=
    " at line ".toList ++ Text.ofNat (fault.info.startPoint.row + 1) ++ ", column ".toList ++
      Text.ofNat (fault.info.startPoint.column + 1)
  if fault.info.isMissing then "missing '".toList ++ fault.type.toList ++ '\'' :: place
  else "syntax error".toList ++ place

end SyntaxTree

end Segmentation
