import Segmentation.Text.CellWidth

/-!
# Texts in columns

How many columns of a terminal a text takes, and where it may be cut. A joiner takes no column and
hides the character after it; a selector turns the last character that took a column into a
picture. A text is cut only between its clusters: a cluster is a character with the joined and the
empty ones after it.
-/

namespace Segmentation.Text

/-- The character that joins its neighbours: the zero width joiner. -/
def joiner : Char := '\u200d'

/-- The character that asks for a picture: the sixteenth variation selector. -/
def selector : Char := '\ufe0f'

/-- The number of columns that the selector adds when `last` is the last character that took a
column. -/
def widening (last : Option Char) : Nat :=
  if last.any widensAsPicture then 1 else 0

/-- The number of columns that a text takes; `last` is the last character before it that took one,
unless a selector came since. -/
def cellsAfter (last : Option Char) : Text → Nat
  | [] => 0
  | [character] => if character = selector then widening last else cellWidth character
  | character :: next :: rest =>
      if character = joiner then cellsAfter last rest
      else if character = selector then widening last + cellsAfter none (next :: rest)
      else
        let width := cellWidth character
        let last := if width = 0 then last else some character
        width + cellsAfter last (next :: rest)

/-- The number of columns that a text takes. -/
def cells (text : Text) : Nat :=
  cellsAfter none text

/-- A number of spaces. -/
def spaces (count : Nat) : Text :=
  List.replicate count ' '

/-! ## Cutting -/

/-- Characters that are cut off together, with the columns that they take. -/
structure Cluster where
  text : Text
  width : Nat
  deriving DecidableEq, Repr

/-- The clusters of a text that begins inside of `cluster`; `last` is the last character before it
that took a column, unless it was widened. -/
def clustersAfter (cluster : Cluster) (last : Option Char) : Text → List Cluster
  | [] => [cluster]
  | [character] =>
      if character = selector then
        [⟨cluster.text ++ [character], cluster.width + widening last⟩]
      else if character = joiner || cellWidth character = 0 then
        [⟨cluster.text ++ [character], cluster.width⟩]
      else [cluster, ⟨[character], cellWidth character⟩]
  | character :: next :: rest =>
      if character = joiner then
        clustersAfter ⟨cluster.text ++ [character, next], cluster.width⟩ last rest
      else if character = selector then
        let last' := if widening last = 0 then last else none
        clustersAfter ⟨cluster.text ++ [character], cluster.width + widening last⟩ last'
          (next :: rest)
      else
        match cellWidth character with
        | 0 => clustersAfter ⟨cluster.text ++ [character], cluster.width⟩ last (next :: rest)
        | width => cluster :: clustersAfter ⟨[character], width⟩ (some character) (next :: rest)

/-- The clusters of a text. -/
def clusters : Text → List Cluster
  | [] => []
  | first :: rest =>
      let width := cellWidth first
      clustersAfter ⟨[first], width⟩ (if width = 0 then none else some first) rest

/-- The clusters that fit into `width` columns. A space stands for the first half of a cluster that
would be cut in two. -/
def takeClusters (width : Nat) : List Cluster → Text
  | [] => []
  | cluster :: others =>
      if width = 0 then []
      else if width < cluster.width then [' ']
      else cluster.text ++ takeClusters (width - cluster.width) others

/-- The text filled with spaces or cut so that it takes `width` columns. -/
def fitted (width : Nat) (text : Text) : Text :=
  let needed := text.cells
  if needed ≤ width then text ++ spaces (width - needed) else takeClusters width text.clusters

/-- Clusters in pieces of at most `width` columns; `piece` takes `taken` columns already. -/
def pieceClusters (width : Nat) (piece : Text) (taken : Nat) : List Cluster → List Text
  | [] => if taken = 0 then [] else [piece]
  | cluster :: others =>
      if width < taken + cluster.width then
        piece :: pieceClusters width cluster.text cluster.width others
      else pieceClusters width (piece ++ cluster.text) (taken + cluster.width) others

/-- The text in pieces of at most `width` columns. -/
def chopped (width : Nat) (text : Text) : List Text :=
  pieceClusters width [] 0 text.clusters

/-- A cut text takes the columns that it is given where no cluster is wider than they are. -/
example : [fitted 3 "日本".toList, fitted 3 "a".toList] =
    ["日 ".toList, "a  ".toList] := by decide +kernel

example : ["aé日", "👩\u200d🚀", "❤\ufe0f", "1\ufe0f\u20e3", "한"].map (cells ·.toList) =
    [4, 2, 2, 2, 2] := by decide +kernel

end Segmentation.Text
