import Segmentation.Text.Basic

/-!
# Line tables

A line table holds the lines of a text beside the offsets at which they start, so that an offset is
turned into a line by halving the table instead of counting newlines. The table carries one offset
more than there are lines, where a line after the last one would start.
-/

namespace Segmentation

/-- The offsets at which the lines start when they are joined by newlines and the first starts at
`first`, with the offset after the last line and its newline. -/
def lineStartsFrom (first : Nat) : List Text → List Nat
  | [] => [first]
  | line :: others => first :: lineStartsFrom (first + line.length + 1) others

/-- The offsets at which the lines start when they are joined by newlines. -/
def lineStarts (lines : List Text) : List Nat :=
  lineStartsFrom 0 lines

@[simp] theorem length_lineStartsFrom (first : Nat) (lines : List Text) :
    (lineStartsFrom first lines).length = lines.length + 1 := by
  induction lines generalizing first with
  | nil => rfl
  | cons line others ih => simp [lineStartsFrom, ih]

/-- The lines of one text and where they start. -/
structure LineTable where
  lines : List Text
  starts : Array Nat
  size_starts : starts.size = lines.length + 1

namespace LineTable

/-- The line table of a text. -/
def ofText (text : Text) : LineTable where
  lines := text.lines
  starts := (lineStarts text.lines).toArray
  size_starts := by simp [lineStarts]

/-- The last entry from `low` to `high` that is at most `offset`, when the entry at `low` is. Each
step looks at the upper middle, so the range shrinks. -/
def search (starts : Array Nat) (offset low high : Nat) (inside : high < starts.size) : Nat :=
  if open_ : low < high then
    let middle := (low + high + 1) / 2
    have below : middle < starts.size := by omega
    if starts[middle] ≤ offset then search starts offset middle high inside
    else search starts offset low (middle - 1) (by omega)
  else low
termination_by high - low

/-- The index of the line that holds the character at `offset`. -/
def lineOf (table : LineTable) (offset : Nat) : Nat :=
  search table.starts offset 0 (table.lines.length - 1) (by have := table.size_starts; omega)

/-- The line with the given index. -/
def line (table : LineTable) (index : Nat) : Text :=
  table.lines.getD index []

/-- The offset at which the line with the given index ends, before its newline. -/
def lineEnd (table : LineTable) (index : Nat) : Nat :=
  table.starts.getD index 0 + (table.line index).length

end LineTable

end Segmentation
