import Segmentation.Proofs.Indentation.Nesting

/-!
# Declarations behind a header

A declaration that starts behind the header of another one is within the block of that one, or it
is behind its last line: its first line holds code, and a block goes on over code as long as all
lines stay inside. So a first line that is not indented deeper ends every block above it, whatever
stands in between, and the two chunks have no character in common.
-/

namespace Segmentation.Indentation

namespace LocatedHeader.In

variable {source : Text} {left right : LocatedHeader}

/-- A header that starts behind another one starts on a line below the colon of that one. -/
theorem colonLine_lt_firstLine (header : left.In source) (header' : right.In source)
    (behind : left.stop ≤ right.offset) : left.colonLine source < right.firstLine source := by
  have long := header.two_le_length
  have inside := header'.stop_le
  rw [LocatedHeader.stop] at behind inside
  rcases header'.lineStart with atStart | ⟨front, ends⟩
  · have length := congrArg List.length atStart
    rw [List.length_take, List.length_nil] at length
    omega
  · have length := congrArg List.length ends
    rw [List.length_take, List.length_append, List.length_singleton] at length
    have front_eq : front = source.take (right.offset - 1) := by
      calc front = (source.take right.offset).take front.length := by
            rw [ends, List.take_left]
        _ = source.take (right.offset - 1) := by
            rw [List.take_take]
            congr 1
            omega
    have fewer : left.colonLine source ≤ Text.newlines front := by
      rw [front_eq]
      exact Text.newlines_take_le (by rw [LocatedHeader.stop]; omega)
    have newline : right.firstLine source = Text.newlines front + 1 := by
      rw [firstLine, ends, Text.newlines_append]
      rfl
    omega

/-- A declaration starts on a line of the block of another one exactly when all lines from the
block's start down to its own first line stay inside. -/
theorem firstLine_le_lastLine_iff (header' : right.In source) :
    right.firstLine source ≤ left.lastLine source ↔
      ∀ line, left.colonLine source < line → line ≤ right.firstLine source →
        staysInside (left.indent source) (source.lines.getD line []) = true := by
  constructor
  · intro within line behind above
    exact staysInside_of_le_lastLine behind (Nat.le_trans above within)
  · intro inside
    exact le_lastLine header'.isCode_firstLine inside

theorem lastLine_lt_firstLine (header' : right.In source)
    (below : left.colonLine source < right.firstLine source)
    (shallow : indentWidth (source.lines.getD (right.firstLine source) []) ≤ left.indent source) :
    left.lastLine source < right.firstLine source := by
  rw [← Nat.not_le, firstLine_le_lastLine_iff header']
  intro inside
  have deeper := (header'.isCode_firstLine.staysInside_iff _).1
    (inside (right.firstLine source) below (Nat.le_refl _))
  omega

/-- A chunk ends before another one starts exactly when its last line is above the first line of
that one: the newline between the two lines belongs to neither. -/
theorem endOffset_lt_startOffset_iff (header : left.In source) (header' : right.In source) :
    (chunkOf source (LineTable.ofText source) left).endOffset <
        (chunkOf source (LineTable.ofText source) right).startOffset ↔
      left.lastLine source < right.firstLine source := by
  have order : Text.lineOffset source.lines (left.lastLine source + 1) ≤
      Text.lineOffset source.lines (right.firstLine source) ↔
        left.lastLine source + 1 ≤ right.firstLine source :=
    Text.lineOffset_le_iff (lastLine_bounds left source).2
  rw [header.endOffset_chunkOf, header'.startOffset_chunkOf]
  omega

end LocatedHeader.In

/-- A declaration that starts behind the header of another one, on a line that is not indented
deeper than that header, has a chunk behind the whole chunk of that one. -/
theorem chunks_apart {source : Text} {left right : LocatedHeader}
    (leftMember : left ∈ allHeaders source) (rightMember : right ∈ allHeaders source)
    (behind : left.stop ≤ right.offset)
    (shallow : indentWidth (source.lines.getD (right.firstLine source) []) ≤ left.indent source) :
    (chunkOf source (LineTable.ofText source) left).endLine <
        (chunkOf source (LineTable.ofText source) right).startLine ∧
      (chunkOf source (LineTable.ofText source) left).endOffset <
        (chunkOf source (LineTable.ofText source) right).startOffset := by
  have header := in_of_mem_allHeaders leftMember
  have header' := in_of_mem_allHeaders rightMember
  have apart := header'.lastLine_lt_firstLine (header.colonLine_lt_firstLine header' behind) shallow
  constructor
  · rw [header.endLine_chunkOf, header'.startLine_chunkOf]
    omega
  · exact (header.endOffset_lt_startOffset_iff header').2 apart

/-- A decorated class below a function with its parameters on two lines. The comment in between
belongs to neither. -/
def functionAndClass : Text :=
  "def f(a,\n  b): pass\n# note\n@d\nclass C:\n  x".toList

def spreadFunction : LocatedHeader where
  offset := 0
  header :=
    { kind := .functionHeader, lead := [], decorators := [], opening := "def ".toList
      name := "f".toList, tail := "(a,\n  b):".toList, isAsync := false
      parameters := some "a,\n  b".toList }

def decoratedClass : LocatedHeader where
  offset := 27
  header :=
    { kind := .classHeader, lead := [], decorators := "@d\n".toList, opening := "class ".toList
      name := "C".toList, tail := ":".toList, isAsync := false, parameters := none }

theorem chunks_apart_functionAndClass :
    (chunkOf functionAndClass (LineTable.ofText functionAndClass) spreadFunction).endOffset <
      (chunkOf functionAndClass (LineTable.ofText functionAndClass) decoratedClass).startOffset :=
  (chunks_apart (by decide +kernel) (by decide +kernel) (by decide +kernel)
    (by decide +kernel)).2

end Segmentation.Indentation
