import Segmentation.Chunk

/-!
# Documentation comments

The documentation of a declaration in a language with braces is the block comment just above it.
Only blank lines and comment lines may stand between the two, and the search gives up after a fixed
number of lines.
-/

namespace Segmentation.DocComment

/-- How many lines above a declaration are looked at. -/
def lookback : Nat := 10

/-- The lines up to the first one that closes a block comment, with that line. -/
def throughClosing : List Text → List Text
  | [] => []
  | line :: others => if line.contains "*/" then [line] else line :: throughClosing others

/-- Searches the lines above a declaration, nearest first. `below` holds the lines that were passed,
in source order. -/
def searchUp (below : List Text) : List Text → Option Text
  | [] => none
  | line :: others =>
      let trimmed := line.trim
      if trimmed.startsWith "/**" then
        some (Text.joinLines (throughClosing (line :: below))).trim
      else if trimmed.isEmpty || trimmed.startsWithAny ["*", "//", "/*"] then
        searchUp (line :: below) others
      else none

/-- The documentation comment above the line with the number `startLine`, which counts from one. -/
def above (lines : List Text) (startLine : Nat) : Except ChunkFailure (Option Text) :=
  let header := startLine - 1
  if lines.length < header then .error .lineOutOfRange
  else .ok (searchUp [] ((lines.take header).reverse.take lookback))

end Segmentation.DocComment
