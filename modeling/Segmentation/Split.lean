import Segmentation.Language
import Segmentation.Number.Binary64
import Segmentation.Text.LineTable
import Segmentation.Window

/-!
# Splitting on lines

A chunk that is too large is cut between lines. The average line length gives an ideal number of
lines for each part; near the ideal line the best place to cut is looked for, and each part steps
back over some lines of the part before it. Only a chunk with a line that is too long in itself is
windowed instead.
-/

namespace Segmentation

namespace Split

/-! ## Scores -/

/-- Lines that close a bracket and hold nothing else. -/
def closingLines : List String :=
  ["\x7d", "\x7d;", "\x7d)", "\x7d);", "]", "];", "])", "]);", ")", ");"]

/-- Lines that leave a loop. -/
def loopExits : List String :=
  ["break", "break;", "continue", "continue;"]

/-- The words that mark a comment line for scoring. -/
def commentLeads : Family → List String
  | .indentation => ["#"]
  | _ => ["//", "/*", "*"]

/-- How good it is to let a part begin with the line. -/
def score (line : Text) (family : Family) : Nat :=
  let trimmed := line.trim
  if trimmed.isEmpty then 10
  else if trimmed.startsWithAny (commentLeads family) then 8
  else if trimmed.isOneOf closingLines then 7
  else if trimmed.isOneOf ["return"] || trimmed.startsWithAny ["return ", "return;"] then 6
  else if trimmed.isOneOf loopExits then 5
  else 1

/-- The score of a position between the lines; the end of the lines is the best place to cut. -/
def scoreAt (lines : List Text) (family : Family) (position : Int) : Except ChunkFailure Nat :=
  if (lines.length : Int) ≤ position then .ok 10
  else
    let index := if position < 0 then position + lines.length else position
    if index < 0 then .error .lineOutOfRange
    else .ok (score (lines.getD index.toNat []) family)

/-! ## The place to cut -/

/-- How far from the ideal line a better one is looked for. -/
def searchWindow : Int := 10

/-- The best of the positions from `position` to `position + count`, when `best` with `bestScore` is
the best so far. Of equally good ones the first wins; a first position always beats no score. -/
def bestFrom (lines : List Text) (family : Family) (position : Int) (best : Int)
    (bestScore : Option Nat) : Nat → Except ChunkFailure Int
  | 0 => .ok best
  | count + 1 => do
      let score ← scoreAt lines family position
      if bestScore.all (· < score) then
        bestFrom lines family (position + 1) position (some score) count
      else bestFrom lines family (position + 1) best bestScore count

/-- The line before which to cut: the best in the window around `ideal` that lies after `current`
and not after `limit`. An empty window gives the end of the allowed range nearest to `ideal`. -/
def splitPoint (lines : List Text) (current ideal limit : Int) (family : Family) :
    Except ChunkFailure Int :=
  let first := max (current + 1) (ideal - searchWindow)
  let last := min limit (ideal + searchWindow)
  bestFrom lines family first (min (max ideal (current + 1)) limit) none (last + 1 - first).toNat

/-! ## Ranges of lines -/

/-- How many whole average lines a size amounts to, computed in double precision. -/
def wholeLines (size : Int) (average : Binary64) : Except ChunkFailure Int :=
  match Binary64.ofInt size with
  | .finite negative mantissa exponent =>
      match ((Binary64.finite negative mantissa exponent).div average).truncate? with
      | some lines => .ok lines
      | none => .error .quotientTooLarge
  | _ => .error .sizeTooLarge

/-- What the cutting of one chunk into ranges of lines works with. -/
structure Layout where
  lines : List Text
  /-- Where each line starts, and where a line after the last one would. -/
  starts : Array Nat
  maxSize : Int
  /-- The ideal number of lines of a part. -/
  linesPerPart : Int
  /-- How many lines a part steps back over. -/
  overlapLines : Int
  family : Family

namespace Layout

/-- The layout of a chunk's content. Without an average line length, all lines make one part. -/
def ofContent (content : Text) (maxSize overlap : Int) (family : Family) :
    Except ChunkFailure Layout := do
  let lines := content.lines
  let average := Binary64.ofQuotient false content.length lines.length
  let (linesPerPart, overlapLines) ←
    if average.isZero then pure ((lines.length : Int), (0 : Int))
    else do
      let perPart ← wholeLines maxSize average
      let stepBack ← wholeLines overlap average
      pure (max 1 perPart, stepBack)
  return {
    lines, maxSize, linesPerPart, overlapLines, family
    starts := (lineStarts lines).toArray }

/-- Where the line with the given index starts. -/
def startOf (layout : Layout) (line : Nat) : Except ChunkFailure Nat :=
  match layout.starts[line]? with
  | some start => .ok start
  | none => .error .lineOutOfRange

/-- The size of the lines from `first` up to, and without, `stop`, joined by newlines. -/
def sizeOf (layout : Layout) (first stop : Nat) : Except ChunkFailure Int := do
  let start ← layout.startOf first
  let after ← layout.startOf stop
  return (after : Int) - start - 1

/-- The furthest line at which the part that starts at `current` may stop, from `limit` on: the part
grows as long as it fits. -/
def limitFrom (layout : Layout) (current limit : Nat) : Except ChunkFailure Nat :=
  if limit < layout.lines.length then do
    let size ← layout.sizeOf current (limit + 1)
    if size ≤ layout.maxSize then limitFrom layout current (limit + 1) else return limit
  else return limit
termination_by layout.lines.length - limit

/-- The ranges of lines from `current` on. Ranges of a single empty line are left out. Every range
starts after the one before it, however far the parts step back. -/
def rangesFrom (layout : Layout) (current : Nat) : Except ChunkFailure (List (Nat × Nat)) :=
  if layout.lines.length < current then .error .lineOutOfRange
  else do
    let total := layout.lines.length
    let rest ← layout.sizeOf current total
    if rest ≤ layout.maxSize then return if 0 < rest then [(current, total)] else []
    let limit ← layout.limitFrom current (current + 1)
    let ideal := min (current + layout.linesPerPart) limit
    let split ← splitPoint layout.lines current ideal limit layout.family
    let size ← layout.sizeOf current split.toNat
    let next := max (split - layout.overlapLines).toNat (current + 1)
    let others ← rangesFrom layout next
    return if 0 < size then (current, split.toNat) :: others else others
termination_by layout.lines.length + 1 - current

end Layout

/-- The mark that opens a body, after a signature. -/
def bodyOpening : Family → String
  | .brace => " \x7b"
  | .indentation => ":"
  | .unknown => ""

/-- The heading of the later parts of a chunk: the first line of its signature, made to look like
the opening of the body. -/
def heading (signature : Option Text) (family : Family) : Text :=
  match signature with
  | none | some [] => []
  | some signature =>
      let line := signature.before "\n"
      let bare :=
        if line.endsWith Chunk.bodyPlaceholder then
          line.take (line.length - Chunk.bodyPlaceholder.length)
        else line
      Text.trimEnd bare ++ (bodyOpening family).toList ++ ['\n']

/-- The parts of a chunk for given ranges of its lines. -/
def pieces (chunk : Chunk) (source : Text) (starts : Array Nat) (heading : Text)
    (ranges : List (Nat × Nat)) : List Chunk :=
  ranges.mapIdx fun number (first, stop) =>
    chunk.part source number ranges.length (chunk.startLine + first) (chunk.startLine + stop - 1)
      (chunk.startOffset + starts.getD first 0) (chunk.startOffset + starts.getD stop 0 - 1) heading

end Split

/-- The parts of a chunk, or the chunk itself when it is small enough. -/
def Chunk.split (chunk : Chunk) (source : Text) (maxSize overlap : Int)
    (preserveSignatures : Bool := true) (family : Family := .brace) :
    Except ChunkFailure (List Chunk) :=
  if chunk.size ≤ maxSize then .ok [chunk]
  else if chunk.content.lines.any (maxSize < ·.length) then
    .ok (chunk.windows source maxSize overlap)
  else do
    let layout ← Split.Layout.ofContent chunk.content maxSize overlap family
    let ranges ← layout.rangesFrom 0
    let heading := if preserveSignatures then Split.heading chunk.signature family else []
    return Split.pieces chunk source layout.starts heading ranges

end Segmentation
