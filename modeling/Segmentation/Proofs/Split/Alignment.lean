import Segmentation.Proofs.Split.Coverage
import Segmentation.Proofs.Split.Redundancy
import Segmentation.Proofs.Text.Runs

/-!
# Pieces as runs of lines

A chunk that is too large, and whose lines are all small enough, is cut between its lines only: each
piece is a run of them. A later piece starts behind the start of an earlier one and never stops
before it does. Lines that stand between two pieces are empty.
-/

namespace Segmentation

namespace Split.Layout

variable {layout : Layout} {current : Nat} {ranges : List (Nat × Nat)}

theorem Plan.stops_mono (plan : layout.Plan current ranges) :
    ranges.Pairwise fun left right => left.2 ≤ right.2 := by
  induction plan with
  | rest fits => split <;> simp
  | @cut current limit split others made further ih =>
      have forward := current_lt_next layout current split
      split
      · refine List.pairwise_cons.2 ⟨further.forall_range (fun _ stop => split ≤ stop) ?_ ?_, ih⟩
        · intro first _ _ _
          exact Nat.le_of_lt made.split_lt
        · intro first limit' split' onward cut _
          exact made.split_mono cut (by omega)
      · exact ih

/-- Between the stop of a range and the start of the next one only newlines stand. -/
theorem Plan.newline_between (plan : layout.Plan 0 ranges) (formed : layout.WellFormed)
    {number : Nat} {left right : Nat × Nat} (found : ranges[number]? = some left)
    (found' : ranges[number + 1]? = some right) {position : Nat}
    (behind : Text.lineOffset layout.lines left.2 ≤ position + 1)
    (before : position < Text.lineOffset layout.lines right.1) :
    (Text.joinLines layout.lines)[position]? = some '\n' := by
  have inside : position < (Text.joinLines layout.lines).length := by
    obtain ⟨filled, last, -, -⟩ := plan.range_bounds right (List.mem_of_getElem? found')
    have := Text.lineOffset_lt filled last
    have := Text.lineOffset_le layout.lines last
    rw [Text.lineOffset_length formed.lines_ne_nil] at this
    omega
  rw [List.getElem?_eq_getElem inside, Option.some.injEq]
  by_contra inLine
  obtain ⟨line, within, low, high⟩ :=
    Text.exists_line_of_ne_newline (List.getElem?_eq_getElem inside) inLine
  obtain ⟨range, member, first, last⟩ := plan.exists_range formed (Nat.zero_le line) within
    (by simp only [span]; omega)
  obtain ⟨index, here⟩ := List.getElem?_of_mem member
  rcases Nat.lt_or_ge number index with later | earlier
  · have ordered : right.1 ≤ range.1 := by
      rcases Nat.eq_or_lt_of_le later with rfl | further
      · exact (Option.some.inj (found'.symm.trans here)) ▸ Nat.le_refl _
      · exact Nat.le_of_lt (related_of_getElem? plan.starts_increase further found' here)
    have := Text.lineOffset_le layout.lines (Nat.le_trans ordered first)
    omega
  · have ordered : range.2 ≤ left.2 := by
      rcases Nat.eq_or_lt_of_le earlier with rfl | further
      · exact (Option.some.inj (found.symm.trans here)) ▸ Nat.le_refl _
      · exact related_of_getElem? plan.stops_mono further here found
    have := Text.lineOffset_le layout.lines (show line + 1 ≤ left.2 by omega)
    omega

end Split.Layout

namespace Chunk

variable {chunk : Chunk} {source : Text} {maxSize overlap : Int} {preserveSignatures : Bool}
  {family : Family} {layout : Split.Layout} {ranges : List (Nat × Nat)}

/-- A piece that is the run of the chunk's lines from the first line of the range up to, and
without, the second one. -/
structure IsRun (chunk : Chunk) (range : Nat × Nat) (piece : Chunk) : Prop where
  filled : range.1 < range.2
  inside : range.2 ≤ chunk.content.lines.length
  startOffset_eq : piece.startOffset =
    chunk.startOffset + Text.lineOffset chunk.content.lines range.1
  endOffset_eq : piece.endOffset =
    chunk.startOffset + Text.lineOffset chunk.content.lines range.2 - 1
  content_eq : piece.content = Text.joinLines (chunk.content.lines.extract range.1 range.2)

theorem isRun_pieces (heading : Text) (first : 0 ≤ chunk.startOffset)
    (slice : chunk.content = source.slice chunk.startOffset chunk.endOffset)
    (formed : layout.WellFormed) (sameLines : layout.lines = chunk.content.lines)
    (plan : layout.Plan 0 ranges) :
    List.Forall₂ chunk.IsRun ranges
      (Split.pieces chunk source layout.starts heading ranges) := by
  refine forall₂_mapIdx fun number range member => ?_
  obtain ⟨filled, inside, -, -⟩ := plan.range_bounds range member
  have start := formed.getD_starts (show range.1 ≤ layout.count by omega)
  have stop := formed.getD_starts inside
  rw [sameLines] at start stop
  have within : range.2 ≤ chunk.content.lines.length := sameLines ▸ inside
  have startOffset : chunk.startOffset + (layout.starts.getD range.1 0 : Int) =
      chunk.startOffset + Text.lineOffset chunk.content.lines range.1 := by rw [start]
  have positive := Text.lineOffset_lt filled within
  have last := Text.lineOffset_le chunk.content.lines within
  rw [Text.lineOffset_lines] at last
  have endOffset : chunk.startOffset + (layout.starts.getD range.2 0 : Int) - 1 =
      chunk.startOffset + (Text.lineOffset chunk.content.lines range.2 - 1 : Nat) := by
    rw [stop]
    omega
  refine ⟨filled, within, startOffset, ?_, ?_⟩
  · exact endOffset.trans (by omega)
  · rw [← Text.slice_lineOffset chunk.content filled within,
      ← Text.slice_of_slice first slice (show _ ≤ chunk.content.length by omega), ← endOffset,
      ← startOffset]
    rfl

/-- Pieces that are runs of the chunk's lines, each starting behind the one before it and stopping
no earlier, with nothing but newlines between them. -/
structure AlignedInto (chunk : Chunk) (source : Text) (pieces : List Chunk) : Prop where
  nonempty : pieces ≠ []
  runs : ∀ piece ∈ pieces, ∃ range, chunk.IsRun range piece
  starts_increase : pieces.Pairwise fun left right => left.startOffset < right.startOffset
  ends_mono : pieces.Pairwise fun left right => left.endOffset ≤ right.endOffset
  newline_between : ∀ number left right, pieces[number]? = some left →
    pieces[number + 1]? = some right → ∀ position : Nat,
      left.endOffset ≤ (position : Int) → (position : Int) < right.startOffset →
        source[position]? = some '\n'

theorem alignedInto_pieces (heading : Text) (first : 0 ≤ chunk.startOffset)
    (slice : chunk.content = source.slice chunk.startOffset chunk.endOffset)
    (positive : 1 ≤ maxSize) (large : maxSize < chunk.size) (formed : layout.WellFormed)
    (sameLines : layout.lines = chunk.content.lines) (sameSize : layout.maxSize = maxSize)
    (plan : layout.Plan 0 ranges) :
    chunk.AlignedInto source (Split.pieces chunk source layout.starts heading ranges) := by
  have runs := isRun_pieces heading first slice formed sameLines plan
  refine ⟨?nonempty, fun piece member => ?runs, ?starts, ?ends, ?gaps⟩
  case nonempty =>
    have whole := Text.lineOffset_lines chunk.content
    rw [← sameLines, ← Chunk.size] at whole
    have notEmpty := plan.ranges_ne_nil formed (by omega)
      (by simp only [Split.Layout.span, Text.lineOffset_zero, Split.Layout.count]; omega)
    intro noPieces
    rw [noPieces] at runs
    cases runs
    exact notEmpty rfl
  case runs =>
    obtain ⟨range, -, run⟩ := exists_of_mem_forall₂ runs member
    exact ⟨range, run⟩
  case starts =>
    refine pairwise_of_forall₂ ?_ runs plan.starts_increase
    intro left right piece piece' run run' before
    have := Text.lineOffset_lt before (show right.1 ≤ _ from
      Nat.le_trans (Nat.le_of_lt run'.filled) run'.inside)
    rw [run.startOffset_eq, run'.startOffset_eq]
    omega
  case ends =>
    refine pairwise_of_forall₂ ?_ runs plan.stops_mono
    intro left right piece piece' run run' before
    have := Text.lineOffset_le chunk.content.lines before
    rw [run.endOffset_eq, run'.endOffset_eq]
    omega
  case gaps =>
    intro number left right found found' position behind before
    obtain ⟨range, here, run⟩ := exists_of_getElem?_forall₂ runs found
    obtain ⟨range', here', run'⟩ := exists_of_getElem?_forall₂ runs found'
    rw [run.endOffset_eq] at behind
    rw [run'.startOffset_eq] at before
    have positive := Text.lineOffset_lt (Nat.lt_of_le_of_lt (Nat.zero_le _) run.filled) run.inside
    obtain ⟨distance, equal⟩ := Int.le.dest (show chunk.startOffset ≤ (position : Int) by omega)
    have newline : (Text.joinLines layout.lines)[distance]? = some '\n' :=
      plan.newline_between formed here here' (by rw [sameLines]; omega) (by rw [sameLines]; omega)
    rw [sameLines, Text.joinLines_lines] at newline
    rw [show position = chunk.startOffset.toNat + distance by omega]
    exact Text.getElem?_of_slice first slice newline

/-- A chunk that is too large and whose lines are all small enough is cut into runs of its lines, in
their order. -/
theorem split_aligned (chunk : Chunk) (source : Text) (preserveSignatures : Bool) (family : Family)
    (short : chunk.content.Addressable) (first : 0 ≤ chunk.startOffset)
    (slice : chunk.content = source.slice chunk.startOffset chunk.endOffset)
    (fits : ∀ line ∈ chunk.content.lines, (line.length : Int) ≤ maxSize)
    (large : maxSize < chunk.size) (nonneg : 0 ≤ overlap) (less : overlap < maxSize) :
    ∃ pieces, chunk.split source maxSize overlap preserveSignatures family = .ok pieces ∧
      chunk.AlignedInto source pieces := by
  obtain ⟨layout, ranges, -, formed, sameLines, sameSize, plan, equal⟩ :=
    exists_split_lines chunk source preserveSignatures family short fits large nonneg less
  exact ⟨_, equal, alignedInto_pieces _ first slice (by omega) large formed sameLines sameSize plan⟩

/-- Three short lines, the second one empty, behind a line of another chunk. -/
def threeLines : Chunk where
  kind := .other
  name := "text".toList
  startLine := 2
  endLine := 4
  startOffset := 2
  endOffset := 8
  content := "ab\n\ncd".toList

/-- The second part of these lines begins with the empty one. -/
theorem split_aligned_threeLines :
    ∃ pieces, threeLines.split "#\nab\n\ncd".toList 3 1 = .ok pieces ∧
      threeLines.AlignedInto "#\nab\n\ncd".toList pieces :=
  split_aligned threeLines _ true .brace (by decide) (by decide) (by decide) (by decide) (by decide)
    (by decide) (by decide)

end Chunk

end Segmentation
