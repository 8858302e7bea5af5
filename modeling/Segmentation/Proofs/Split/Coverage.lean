import Segmentation.Proofs.Split.Pieces

/-!
# Splitting loses no text

The cursor never steps past the cut before it, so a plan leaves no line out between two parts. What
it leaves out are parts without text, and such a part is a single empty line.
-/

namespace Segmentation

namespace Split.Layout

variable {layout : Layout} {current : Nat} {ranges : List (Nat × Nat)}

/-- Every line that is not empty belongs to a planned range. -/
theorem Plan.exists_range (plan : layout.Plan current ranges) (formed : layout.WellFormed)
    {line : Nat} (onward : current ≤ line) (inside : line < layout.count)
    (filled : 0 < layout.span line (line + 1)) :
    ∃ range ∈ ranges, range.1 ≤ line ∧ line < range.2 := by
  induction plan with
  | @rest current fits =>
      have all : layout.span line (line + 1) ≤ layout.span current layout.count :=
        span_le_span onward inside
      rw [if_pos (by omega)]
      exact ⟨(current, layout.count), by simp, onward, inside⟩
  | @cut current limit split others made further ih =>
      rcases Nat.lt_or_ge line split with before | behind
      · have part : layout.span line (line + 1) ≤ layout.span current split :=
          span_le_span onward before
        rw [if_pos (by omega)]
        exact ⟨(current, split), by simp, onward, before⟩
      · obtain ⟨range, member, found⟩ := ih (Nat.le_trans (formed.next_le made) behind)
        refine ⟨range, ?_, found⟩
        split
        · exact List.mem_cons_of_mem _ member
        · exact member

/-- Lines that hold some text never come to nothing: leaving out an empty line makes the rest
smaller by one, and the rest was larger than a part may be. -/
theorem Plan.ranges_ne_nil (plan : layout.Plan current ranges) (formed : layout.WellFormed)
    (positive : 1 ≤ layout.maxSize) (filled : 0 < layout.span current layout.count) :
    ranges ≠ [] := by
  induction plan with
  | rest fits => simp [if_pos filled]
  | @cut current limit split others made further ih =>
      split
      · simp
      · next empty =>
          have single := made.split_eq_succ empty
          have overfull := made.overfull
          have next_eq : layout.next current split = current + 1 := by
            have forward := current_lt_next layout current split
            have back := formed.next_le made
            omega
          apply ih
          rw [next_eq]
          rw [single] at empty
          simp only [span] at empty overfull ⊢
          omega

/-! ## Where the parts stand -/

/-- Each part stands within the lines, holds something and is small enough. -/
theorem Plan.rangeAt_bounds (plan : layout.Plan 0 ranges) (start : Int) :
    ∀ place ∈ ranges.map (rangeAt layout start), start ≤ place.1 ∧ place.1 < place.2 ∧
      place.2 ≤ start + Text.lineOffset layout.lines layout.count - 1 ∧
      place.2 - place.1 ≤ layout.maxSize := by
  intro place member
  obtain ⟨range, planned, rfl⟩ := List.mem_map.1 member
  obtain ⟨ordered, inside, filled, small⟩ := plan.range_bounds range planned
  have last := Text.lineOffset_le layout.lines inside
  simp only [span] at filled small
  simp only [rangeAt]
  omega

/-- Every character that ends no line stands in a part. -/
theorem Plan.exists_rangeAt (plan : layout.Plan 0 ranges) (formed : layout.WellFormed)
    (start : Int) {position : Nat} {character : Char}
    (found : (Text.joinLines layout.lines)[position]? = some character)
    (inLine : character ≠ '\n') :
    ∃ place ∈ ranges.map (rangeAt layout start),
      place.1 ≤ start + position ∧ start + position < place.2 := by
  obtain ⟨line, inside, low, high⟩ := Text.exists_line_of_ne_newline found inLine
  have filled : 0 < layout.span line (line + 1) := by
    simp only [span]
    omega
  obtain ⟨range, member, first, last⟩ :=
    plan.exists_range formed (Nat.zero_le line) inside filled
  have before := Text.lineOffset_le layout.lines first
  have after := Text.lineOffset_le layout.lines (show line + 1 ≤ range.2 from last)
  refine ⟨rangeAt layout start range, List.mem_map_of_mem member, ?_, ?_⟩
  · simp only [rangeAt]
    omega
  · simp only [rangeAt]
    omega

theorem Plan.rangeAt_starts_increase (plan : layout.Plan 0 ranges) (start : Int) :
    (ranges.map (rangeAt layout start)).Pairwise fun left right => left.1 < right.1 := by
  rw [List.pairwise_map]
  refine plan.starts_increase.imp_of_mem ?_
  intro left right _ member before
  have := Text.lineOffset_lt before (plan.inside right member).1
  simp only [rangeAt]
  omega

end Split.Layout

namespace Chunk

variable {chunk : Chunk} {source : Text} {maxSize overlap : Int} {preserveSignatures : Bool}
  {family : Family} {pieces : List Chunk}

/-- A chunk that is too large, and whose layout has the given plan, is cut into the pieces of the
plan. -/
theorem cutInto_pieces {layout : Split.Layout} {ranges : List (Nat × Nat)} (heading : Text)
    (slice : chunk.content = source.slice chunk.startOffset chunk.endOffset)
    (nonempty : chunk.startOffset < chunk.endOffset) (positive : 1 ≤ maxSize)
    (large : maxSize < chunk.size) (formed : layout.WellFormed)
    (sameLines : layout.lines = chunk.content.lines) (sameSize : layout.maxSize = maxSize)
    (plan : layout.Plan 0 ranges) :
    chunk.CutInto source maxSize (Split.pieces chunk source layout.starts heading ranges) := by
  have within := size_le_of_content_eq slice (Int.le_of_lt nonempty)
  have whole : Text.lineOffset layout.lines layout.count = chunk.size + 1 := by
    rw [Split.Layout.count, sameLines, Text.lineOffset_lines]
    rfl
  have content : ∀ piece ∈ Split.pieces chunk source layout.starts heading ranges,
      piece.content = source.slice piece.startOffset piece.endOffset := by
    intro piece member
    obtain ⟨number, inside, rfl⟩ := List.mem_mapIdx.1 member
    rfl
  apply cutInto_of_ranges (Split.pieces_ranges chunk source heading formed plan.inside) content
  · have filled : 0 < layout.span 0 layout.count := by
      simp only [Split.Layout.span, Text.lineOffset_zero]
      omega
    intro none
    exact plan.ranges_ne_nil formed (by omega) filled (List.map_eq_nil_iff.1 none)
  · intro place member
    obtain ⟨low, filled, high, size⟩ := plan.rangeAt_bounds chunk.startOffset place member
    exact ⟨low, filled, by omega, by omega⟩
  · intro position character found inLine
    rw [← Text.joinLines_lines chunk.content, ← sameLines] at found
    exact plan.exists_rangeAt formed chunk.startOffset found inLine
  · exact plan.rangeAt_starts_increase chunk.startOffset

theorem SplitInto.cutInto
    (into : SplitInto chunk source maxSize overlap preserveSignatures family pieces)
    (slice : chunk.content = source.slice chunk.startOffset chunk.endOffset)
    (nonempty : chunk.startOffset < chunk.endOffset) (nonneg : 0 ≤ overlap)
    (less : overlap < maxSize) : chunk.CutInto source maxSize pieces := by
  cases into with
  | whole small => exact cutInto_self slice nonempty small
  | windows large tooLong => exact cutInto_windows false slice nonempty (by omega) nonneg large
  | lines large layoutOf formed sameLines sameSize plan =>
      exact cutInto_pieces _ slice nonempty (by omega) large formed sameLines sameSize plan

/-- Splitting loses no text. -/
theorem split_coveredBy (chunk : Chunk) (source : Text) (preserveSignatures : Bool)
    (family : Family) (short : source.Addressable)
    (slice : chunk.content = source.slice chunk.startOffset chunk.endOffset)
    (nonempty : chunk.startOffset < chunk.endOffset) (nonneg : 0 ≤ overlap)
    (less : overlap < maxSize) :
    ∃ pieces, chunk.split source maxSize overlap preserveSignatures family = .ok pieces ∧
      chunk.CoveredBy pieces := by
  obtain ⟨pieces, equal, into⟩ :=
    exists_split chunk source preserveSignatures family (short.of_slice slice) nonneg less
  exact ⟨pieces, equal, (into.cutInto slice nonempty nonneg less).toCoveredBy⟩

/-- The empty line between the two parts of this text is left out, the lines around it are not. -/
theorem split_coveredBy_two_lines :
    ∃ pieces, (wholeSource .other "text" "ab\n\ncd".toList).split "ab\n\ncd".toList 3 1 =
        .ok pieces ∧
      (wholeSource .other "text" "ab\n\ncd".toList).CoveredBy pieces :=
  split_coveredBy _ _ true .brace (by decide) (by decide) (by decide) (by decide) (by decide)

end Chunk

end Segmentation
