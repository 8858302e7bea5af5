import Segmentation.SyntaxTree

/-!
# Places in a source

A cursor is a place in a source together with the text that is left there.
-/

namespace Segmentation.Lr

/-- A place in a source: the text that is left, and where it starts. -/
structure Cursor where
  rest : Text
  byte : Nat
  point : Point

namespace Cursor

/-- The start of a source. -/
def start (source : Text) : Cursor := ⟨source, 0, ⟨0, 0⟩⟩

/-- The place after the given number of characters. -/
def advance : Nat → Cursor → Cursor
  | 0, cursor => cursor
  | count + 1, cursor =>
      match cursor.rest with
      | [] => cursor
      | character :: rest =>
          advance count
            { rest
              byte := cursor.byte + character.utf8Size
              point :=
                if character = '\n' then ⟨cursor.point.row + 1, 0⟩
                else ⟨cursor.point.row, cursor.point.column + character.utf8Size⟩ }

end Cursor

/-- A node over what was read between two places. -/
def nodeOver (type : String) (isNamed : Bool) (start stop : Cursor) (children : List SyntaxTree) :
    SyntaxTree :=
  .node
    { type, isNamed
      startByte := start.byte
      endByte := stop.byte
      startPoint := start.point
      endPoint := stop.point }
    children

end Segmentation.Lr
