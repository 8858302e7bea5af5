import Segmentation.SyntaxTree

/-!
# Forests

Trees in a row, put together from shorter rows. Two forests are joined in one step, however long
they are, so that a row that grows tree by tree is made in as many steps as it has trees.
-/

namespace Segmentation.Lr

/-- Trees in a row. -/
inductive Forest where
  | empty
  | tree (tree : SyntaxTree)
  | join (left right : Forest)
  deriving Inhabited

namespace Forest

/-- The trees of a forest and then others. -/
def toListThen (others : List SyntaxTree) : Forest → List SyntaxTree
  | empty => others
  | tree single => single :: others
  | join left right => toListThen (toListThen others right) left

/-- The trees of a forest. -/
def toList (forest : Forest) : List SyntaxTree :=
  forest.toListThen []

/-- The forest of given trees. -/
def ofList : List SyntaxTree → Forest
  | [] => empty
  | single :: others => join (tree single) (ofList others)

theorem toListThen_eq (forest : Forest) (others : List SyntaxTree) :
    forest.toListThen others = forest.toList ++ others := by
  induction forest generalizing others with
  | empty => rfl
  | tree single => rfl
  | join left right ihLeft ihRight =>
      simp only [toList, toListThen]
      rw [ihLeft, ihRight, ihLeft (right.toListThen []), ihRight []]
      simp

@[simp] theorem toList_join (left right : Forest) :
    (join left right).toList = left.toList ++ right.toList :=
  toListThen_eq left right.toList

@[simp] theorem toList_ofList (trees : List SyntaxTree) : (ofList trees).toList = trees := by
  induction trees with
  | nil => rfl
  | cons single others ih =>
      rw [ofList, toList_join, ih]
      rfl

end Forest

end Segmentation.Lr
