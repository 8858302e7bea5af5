import Segmentation.Proofs.Indentation.Extent
import Segmentation.Proofs.Indentation.Scan

/-!
# Declarations behind other text

Headers are read forwards from the start of a line, and the lines of a declaration are looked at
from its header on. So when whole lines on which nothing looks declared stand in front of a source,
its declarations are found again, each as many characters and lines further down.
-/

namespace Segmentation

/-- The chunk as it stands when a text is put in front of its source. -/
def Chunk.behind (before : Text) (chunk : Chunk) : Chunk :=
  { chunk with
    startLine := chunk.startLine + before.newlines
    endLine := chunk.endLine + before.newlines
    startOffset := chunk.startOffset + before.length
    endOffset := chunk.endOffset + before.length }

section

variable (before : Text) (chunk : Chunk)

@[simp] theorem Chunk.startLine_behind :
    (chunk.behind before).startLine = chunk.startLine + before.newlines := rfl

@[simp] theorem Chunk.endLine_behind :
    (chunk.behind before).endLine = chunk.endLine + before.newlines := rfl

@[simp] theorem Chunk.startOffset_behind :
    (chunk.behind before).startOffset = chunk.startOffset + before.length := rfl

@[simp] theorem Chunk.endOffset_behind :
    (chunk.behind before).endOffset = chunk.endOffset + before.length := rfl

end

namespace Indentation

variable {before source : Text} {kind : HeaderKind}

/-- The header as it stands when a text is put in front of its source. -/
def LocatedHeader.behind (before : Text) (located : LocatedHeader) : LocatedHeader :=
  { located with offset := before.length + located.offset }

/-! ## Headers -/

/-- Where a text starts is only counted on. -/
theorem headersFrom_add (distance offset : Nat) (lineStart : Bool) (skip : Nat) (text : Text) :
    headersFrom kind (distance + offset) lineStart skip text =
      (headersFrom kind offset lineStart skip text).map fun located =>
        { located with offset := distance + located.offset } := by
  induction text generalizing offset lineStart skip with
  | nil => cases skip <;> rfl
  | cons character others ih =>
      cases skip with
      | succ skip =>
          rw [headersFrom, headersFrom]
          exact ih (offset + 1) _ skip
      | zero =>
          rw [headersFrom, headersFrom]
          cases if lineStart then takeHeader? kind (character :: others) else none with
          | none => exact ih (offset + 1) _ 0
          | some found => exact congrArg (List.cons _) (ih (offset + 1) _ _)

/-- Whole lines without anything that looks declared hold no header. -/
theorem headers_append (whole : before.WholeLines)
    (plain : ∀ line ∈ before.lines, looksDeclared line = false) (source : Text) :
    headers kind (before ++ source) = (headers kind source).map (LocatedHeader.behind before) := by
  have skipped : headersFrom kind 0 true 0 (Text.unlines before.lines.dropLast ++ source) = _ :=
    headersFrom_lines
      (fun line member => Text.not_mem_of_mem_lines ((List.dropLast_sublist _).mem member))
      (fun line member => plain line ((List.dropLast_sublist _).mem member)) source
  rw [whole.unlines_dropLast, Nat.zero_add] at skipped
  rw [headers, skipped]
  exact headersFrom_add before.length 0 true 0 source

theorem allHeaders_append (whole : before.WholeLines)
    (plain : ∀ line ∈ before.lines, looksDeclared line = false) (source : Text) :
    allHeaders (before ++ source) = (allHeaders source).map (LocatedHeader.behind before) := by
  rw [allHeaders, allHeaders, headers_append whole plain, headers_append whole plain,
    List.map_append]

/-! ## The lines of a declaration -/

section

variable (before) (located : LocatedHeader) (source : Text)

theorem firstLine_behind : (located.behind before).firstLine (before ++ source) =
    before.newlines + located.firstLine source :=
  Text.newlines_take_append before source located.offset

theorem nameLine_behind : (located.behind before).nameLine (before ++ source) =
    before.newlines + located.nameLine source := by
  rw [LocatedHeader.nameLine, LocatedHeader.nameOffset, LocatedHeader.behind, Nat.add_assoc]
  exact Text.newlines_take_append before source located.nameOffset

end

section

variable {located : LocatedHeader}

theorem colonLine_behind (header : located.In source) :
    (located.behind before).colonLine (before ++ source) =
      before.newlines + located.colonLine source := by
  have long := header.two_le_length
  have place : (located.behind before).stop - 1 = before.length + (located.stop - 1) := by
    simp only [LocatedHeader.stop, LocatedHeader.behind]
    omega
  rw [LocatedHeader.colonLine, place]
  exact Text.newlines_take_append before source (located.stop - 1)

variable (whole : before.WholeLines)

include whole

theorem indent_behind (located : LocatedHeader) (source : Text) :
    (located.behind before).indent (before ++ source) = located.indent source := by
  rw [LocatedHeader.indent, nameLine_behind, whole.getD_lines_add, ← LocatedHeader.indent]

theorem lastLine_behind (header : located.In source) :
    (located.behind before).lastLine (before ++ source) =
      before.newlines + located.lastLine source := by
  have here := LocatedHeader.In.blockEnd_eq located source
  have there := LocatedHeader.In.blockEnd_eq (located.behind before) (before ++ source)
  rw [blockEnd] at here there
  rw [colonLine_behind header, indent_behind whole, Nat.add_assoc, whole.drop_lines_add] at there
  omega

theorem chunkOf_behind (header : located.In source)
    (header' : (located.behind before).In (before ++ source)) :
    chunkOf (before ++ source) (LineTable.ofText (before ++ source)) (located.behind before) =
      (chunkOf source (LineTable.ofText source) located).behind before := by
  have slice := (declares_chunkOf header).slice
  have lastLine := lastLine_behind whole header
  have endOffset : (chunkOf (before ++ source) (LineTable.ofText (before ++ source))
      (located.behind before)).endOffset =
        (chunkOf source (LineTable.ofText source) located).endOffset + before.length := by
    rw [header.endOffset_chunkOf, header'.endOffset_chunkOf, lastLine, Nat.add_assoc,
      whole.lineOffset_add]
    omega
  have startOffset : (chunkOf (before ++ source) (LineTable.ofText (before ++ source))
      (located.behind before)).startOffset =
        (chunkOf source (LineTable.ofText source) located).startOffset + before.length := by
    change ((before.length + located.offset : Nat) : Int) = (located.offset : Int) + before.length
    omega
  refine Chunk.ext rfl rfl ?startLine ?endLine startOffset endOffset ?content rfl ?docComment rfl
    rfl rfl rfl rfl rfl rfl rfl rfl
  case startLine =>
    rw [header'.startLine_chunkOf, firstLine_behind, Chunk.startLine_behind,
      header.startLine_chunkOf]
    omega
  case endLine =>
    rw [header'.endLine_chunkOf, lastLine, Chunk.endLine_behind, header.endLine_chunkOf]
    omega
  case content =>
    rw [(declares_chunkOf header').slice.content_eq, startOffset, endOffset,
      Text.slice_append before source slice.start_nonneg
        (Int.le_trans slice.start_nonneg slice.ordered)]
    exact slice.content_eq.symm
  case docComment =>
    rw [header'.docComment_chunkOf, colonLine_behind header, docString?, Nat.add_assoc,
      whole.drop_lines_add, Chunk.behind, header.docComment_chunkOf, docString?]

end

/-! ## Chunks -/

/-- The chunks of a source that declares something move with it. -/
theorem chunks_append (whole : before.WholeLines)
    (plain : ∀ line ∈ before.lines, looksDeclared line = false)
    (hasHeaders : allHeaders source ≠ []) :
    chunks (before ++ source) = (chunks source).map (Chunk.behind before) := by
  have moved : (allHeaders (before ++ source)).map
      (chunkOf (before ++ source) (LineTable.ofText (before ++ source))) =
        ((allHeaders source).map (chunkOf source (LineTable.ofText source))).map
          (Chunk.behind before) := by
    have headers := allHeaders_append whole plain source
    rw [headers, List.map_map, List.map_map]
    refine List.map_congr_left fun located member => ?_
    refine chunkOf_behind whole (in_of_mem_allHeaders member) (in_of_mem_allHeaders ?_)
    rw [headers]
    exact List.mem_map_of_mem member
  rw [chunks, chunks, moved]
  cases found : (allHeaders source).map (chunkOf source (LineTable.ofText source)) with
  | nil => exact absurd (List.map_eq_nil_iff.1 found) hasHeaders
  | cons first others =>
      refine (List.map_mergeSort fun left _ right _ => ?_).symm
      simp only [Chunk.startOffset_behind, Int.add_le_add_iff_right]

end Indentation

end Segmentation
