import Segmentation.Chunk
import Segmentation.Indentation.Block

/-!
# Blocks that start from the end

The line where a body starts may be given by an index that counts back from the end of the lines.
Reading then goes on at the first line once the last one is passed. An index before the first line
is a fault.
-/

namespace Segmentation.Indentation

/-- The position of an index that may count back from the end, unless it lies before the first
line. -/
def positionOf (lines : List Text) (index : Int) : Except ChunkFailure Nat :=
  let position := if index < 0 then index + lines.length else index
  if position < 0 then .error .lineOutOfRange else .ok position.toNat

/-- The lines from an index on. All lines follow again after those at the end. -/
def linesFrom (lines : List Text) (index : Int) : Except ChunkFailure (List Text) := do
  let position ← positionOf lines index
  return lines.drop position ++ (if index < 0 then lines else [])

/-- The index of the last line of the block whose body starts at the index `bodyStart`, or the index
before `bodyStart` when the body is empty. -/
def blockEndFrom (lines : List Text) (bodyStart baseIndent : Int) : Except ChunkFailure Int := do
  let block := blockLines baseIndent (← linesFrom lines bodyStart)
  return bodyStart + block.length - 1

/-- The lines after the one at an index; all lines follow the last one when its index counts from
the end. -/
def linesAfter (lines : List Text) (index : Int) : List Text :=
  let next := index + 1
  lines.drop (if next < 0 then next + lines.length else next).toNat

/-- The documentation string among so many lines from an index on. Only blank and comment lines may
stand before it; a string that is never closed is none. -/
def docStringAt (lines : List Text) (index : Int) : Nat → Except ChunkFailure (Option Text)
  | 0 => .ok none
  | count + 1 => do
      let line := lines.getD (← positionOf lines index) []
      match openingQuote? line.trim with
      | some (quote, head) =>
          let collected := linesToQuote? quote (head :: linesAfter lines index)
          return collected.bind fun found => nonblank? (Text.joinLines found)
      | none => if isSkippable line then docStringAt lines (index + 1) count else return none

/-- The documentation string of the body that starts at the index `bodyStart`. -/
def docStringFrom (lines : List Text) (bodyStart : Int) : Except ChunkFailure (Option Text) :=
  let stop := min (bodyStart + docStringLookahead) lines.length
  docStringAt lines bodyStart (stop - bodyStart).toNat

/-- An index that does not count from the end means the line at that position. -/
theorem blockEndFrom_natCast (lines : List Text) (bodyStart : Nat) (baseIndent : Int) :
    blockEndFrom lines bodyStart baseIndent = .ok (blockEnd lines bodyStart baseIndent) := by
  have nonneg : ¬(bodyStart : Int) < 0 := by omega
  simp [blockEndFrom, linesFrom, positionOf, nonneg, blockEnd, bind, Except.bind, pure,
    Except.pure]

end Segmentation.Indentation
