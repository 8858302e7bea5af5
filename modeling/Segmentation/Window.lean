import Segmentation.Chunk

/-!
# Windows

Content without usable structure is cut into windows of a fixed size, each starting a fixed step
after the one before it. A window ends with the chunk, so only the last one may be shorter.
-/

namespace Segmentation

namespace Window

/-- The number of the line that holds the character at `offset`, counted from one. -/
def lineAt (source : Text) (offset : Int) : Int :=
  (Text.slice source 0 offset).newlines + 1

/-- How far apart windows of `maxSize` characters start that share `overlap` characters. A window
always starts after the one before it. -/
def step (maxSize overlap : Int) : Nat :=
  (max 1 (maxSize - overlap)).toNat

/-- The windows of `maxSize` characters from `start` to `stop`, each with its start and its end. -/
def ranges (maxSize : Int) (step : Nat) (forward : 0 < step) (start stop : Int) :
    List (Int × Int) :=
  if stop ≤ start + maxSize then [(start, stop)]
  else (start, start + maxSize) :: ranges maxSize step forward (start + step) stop
termination_by (stop - start - maxSize).toNat
decreasing_by omega

theorem step_pos (maxSize overlap : Int) : 0 < step maxSize overlap := by
  simp only [step]; omega

/-- The name of a window of plain text. -/
def partName (number : Nat) : Text :=
  "chunk_".toList ++ Text.ofNat number

end Window

/-- The windows of a chunk, or the chunk itself when it is small enough. With `nameParts` each
window is named by its number. -/
def Chunk.windows (chunk : Chunk) (source : Text) (maxSize overlap : Int)
    (nameParts : Bool := false) : List Chunk :=
  if chunk.size ≤ maxSize then [chunk]
  else
    let ranges := Window.ranges maxSize (Window.step maxSize overlap)
      (Window.step_pos maxSize overlap) chunk.startOffset chunk.endOffset
    ranges.mapIdx fun number (start, stop) =>
      { chunk.part source number ranges.length (Window.lineAt source start)
          (Window.lineAt source (stop - 1)) start stop [] with
        name := if nameParts then Window.partName number else chunk.name }

/-- The windows of a plain text. -/
def Text.windows (source : Text) (maxSize overlap : Int) : List Chunk :=
  let whole : Chunk :=
    { kind := .plainText
      name := "content".toList
      startLine := 1
      endLine := Window.lineAt source (max (source.length - 1 : Int) 0)
      startOffset := 0
      endOffset := source.length
      content := source }
  whole.windows source maxSize overlap true

end Segmentation
