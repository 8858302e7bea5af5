import Segmentation.Lr.Cursor
import Segmentation.Lr.Forest

/-!
# Stacks

What was read of a text so far, as pieces one upon the other with a state of the automaton between
each and the next. Where a text was read in several ways that came to the same state, there is one
stack for all of them: its top has a link for each way.
-/

namespace Segmentation.Lr

/-- A piece of a text that was read: the trees that it adds to the node around it, and its range. An
extra piece, such as a comment, stands between others and belongs to no production. -/
structure Piece where
  trees : Forest
  start : Cursor
  stop : Cursor
  weight : Int := 0
  isExtra : Bool := false

mutual

/-- A stack: the state that was reached at a place, and how it was reached. Two stacks with one
identity are the same one. -/
inductive Stack where
  | node (identity state : Nat) (place : Cursor) (links : Links)

/-- The ways in which a state was reached: the last piece, and the stack below it. -/
inductive Links where
  | none
  | link (piece : Piece) (below : Stack) (others : Links)

end

namespace Stack

/-- What tells one stack from another. -/
def identity : Stack → Nat
  | node identity _ _ _ => identity

/-- The state on top. -/
def state : Stack → Nat
  | node _ state _ _ => state

/-- Where the text goes on. -/
def place : Stack → Cursor
  | node _ _ place _ => place

/-- The ways in which the top was reached. -/
def links : Stack → Links
  | node _ _ _ links => links

end Stack

mutual

/-- The ways to take a number of pieces off a stack, extra ones not counted: the pieces from the
lowest to the highest, and the stack below them. -/
def Stack.pop (count : Nat) (taken : List Piece) : Stack → List (List Piece × Stack)
  | .node identity state place links =>
      match count with
      | 0 => [(taken, .node identity state place links)]
      | count + 1 => links.pop count taken

/-- The ways to take a piece and then a number of others off the stack on top of some links. -/
def Links.pop (count : Nat) (taken : List Piece) : Links → List (List Piece × Stack)
  | .none => []
  | .link piece below others =>
      below.pop (if piece.isExtra then count + 1 else count) (piece :: taken) ++
        others.pop count taken

end

mutual

/-- All pieces of a stack, from the lowest to the highest, by the first link of each state. -/
def Stack.pieces (taken : List Piece) : Stack → List Piece
  | .node _ _ _ links => links.pieces taken

/-- All pieces below and in the first of some links. -/
def Links.pieces (taken : List Piece) : Links → List Piece
  | .none => taken
  | .link piece below _ => below.pieces (piece :: taken)

end

namespace Links

/-- The links with one more. Of two links to one stack the one whose piece has more weight stays. -/
def insert (piece : Piece) (below : Stack) : Links → Links
  | none => link piece below none
  | link other lower others =>
      if lower.identity = below.identity then
        if other.weight < piece.weight then link piece below others else link other lower others
      else link other lower (others.insert piece below)

/-- The links of two stacks. -/
def union (known : Links) : Links → Links
  | none => known
  | link piece below others => (known.insert piece below).union others

end Links

/-- The weight of pieces. -/
def totalWeight (pieces : List Piece) : Int :=
  pieces.foldl (fun sum piece => sum + piece.weight) 0

/-- Ways to take pieces off a stack of which no two lead to the same stack: where they do, the one
with more weight stays. -/
def distinctWays : List (List Piece × Stack) → List (List Piece × Stack)
  | [] => []
  | (pieces, below) :: others =>
      let rest := distinctWays others
      match rest.find? fun (_, other) => other.identity == below.identity with
      | none => (pieces, below) :: rest
      | some (better, _) =>
          if totalWeight pieces < totalWeight better then rest
          else
            (pieces, below) :: rest.filter fun (_, other) => other.identity != below.identity

end Segmentation.Lr
