import Segmentation.Metrics
import Segmentation.Proofs.Split.Alignment

/-!
# Splitting without overlap

Parts that do not step back share no line: each one starts at the cut of the part before it or
behind an empty line that was left out. So the lines of the parts are the lines of the chunk but for
some empty ones, and whatever is counted line by line, and not for empty lines, comes to the same
for the chunk and for its parts together.
-/

namespace Segmentation

namespace Text

/-- The second lines are the first ones with some empty lines put in. -/
inductive PaddedTo : List Text → List Text → Prop where
  | nil : PaddedTo [] []
  | same (line : Text) {lines padded : List Text} (others : PaddedTo lines padded) :
      PaddedTo (line :: lines) (line :: padded)
  | empty {lines padded : List Text} (others : PaddedTo lines padded) :
      PaddedTo lines ([] :: padded)

theorem PaddedTo.append_left {lines padded : List Text} (run : List Text)
    (others : PaddedTo lines padded) : PaddedTo (run ++ lines) (run ++ padded) := by
  induction run with
  | nil => exact others
  | cons line later ih => exact .same line ih

theorem PaddedTo.refl (lines : List Text) : PaddedTo lines lines := by
  simpa using PaddedTo.append_left lines .nil

/-- Lines are counted alike with and without empty ones when an empty one does not count. -/
theorem PaddedTo.countP_eq {lines padded : List Text} (counts : Text → Bool)
    (same : PaddedTo lines padded) (uncounted : counts [] = false) :
    lines.countP counts = padded.countP counts := by
  induction same with
  | nil => rfl
  | same line others ih => rw [List.countP_cons, List.countP_cons, ih]
  | empty others ih => rw [List.countP_cons_of_neg (by simp [uncounted]), ih]

end Text

namespace Metrics

/-- There is as much code in parts as in a text whose lines theirs are but for empty ones. -/
theorem sum_linesOfCode {α : Type} {parts : List α} {textOf : α → Text} {content : Text}
    (markers : List String)
    (lines : Text.PaddedTo (parts.flatMap fun part => (textOf part).lines) content.lines) :
    (parts.map fun part => linesOfCode (textOf part) markers).sum =
      linesOfCode content markers := by
  have counted := lines.countP_eq (isCodeLine markers) rfl
  rw [List.countP_flatMap] at counted
  exact counted

end Metrics

namespace Split.Layout

variable {layout : Layout} {current : Nat} {ranges : List (Nat × Nat)}

theorem Cut.next_eq {limit split : Nat} (made : layout.Cut current limit split)
    (apart : layout.overlapLines = 0) : layout.next current split = split := by
  have := made.current_lt
  simp only [next, apart]
  omega

theorem drop_of_span (inside : current < layout.count)
    (empty : ¬0 < layout.span current (current + 1)) :
    layout.lines.drop current = [] :: layout.lines.drop (current + 1) := by
  rw [span_succ inside] at empty
  have noText : layout.lines[current] = [] := List.length_eq_zero_iff.1 (by omega)
  rw [List.drop_eq_getElem_cons inside, noText]

theorem extract_append_drop (lines : List Text) {first stop : Nat} (ordered : first ≤ stop) :
    lines.extract first stop ++ lines.drop stop = lines.drop first := by
  obtain ⟨count, rfl⟩ := Nat.exists_eq_add_of_le ordered
  rw [List.extract_eq_take_drop, Nat.add_sub_cancel_left, ← List.drop_drop, List.take_append_drop]

/-- The ranges of parts that do not step back hold all lines but for some empty ones. -/
theorem Plan.padded (plan : layout.Plan current ranges) (apart : layout.overlapLines = 0)
    (inside : current < layout.count) :
    Text.PaddedTo (ranges.flatMap fun range => layout.lines.extract range.1 range.2)
      (layout.lines.drop current) := by
  induction plan with
  | @rest current fits =>
      split
      · rw [List.flatMap_singleton, ← extract_append_drop layout.lines (Nat.le_of_lt inside),
          List.drop_length, List.append_nil]
        exact .refl _
      · next empty =>
          have last := eq_succ_of_span inside (Nat.le_refl _) empty
          rw [last] at empty
          rw [drop_of_span inside empty, ← last, List.drop_length]
          exact .empty .nil
  | @cut current limit split others made further ih =>
      rw [made.next_eq apart] at ih
      have later := ih made.split_lt
      split
      · rw [List.flatMap_cons, ← extract_append_drop layout.lines (Nat.le_of_lt made.current_lt)]
        exact later.append_left _
      · next empty =>
          have single := made.split_eq_succ empty
          rw [single] at empty later
          rw [drop_of_span inside empty]
          exact .empty later

/-- Each range starts where the one before it stops, or behind. -/
theorem Plan.apart (plan : layout.Plan current ranges) (apart : layout.overlapLines = 0) :
    ranges.Pairwise fun left right => left.2 ≤ right.1 :=
  plan.pairwise_range _ fun _ _ _ made _ after => made.next_eq apart ▸ after

end Split.Layout

namespace Chunk

variable {chunk : Chunk} {source : Text} {maxSize : Int} {pieces : List Chunk}
  {ranges : List (Nat × Nat)}

theorem IsRun.lines_eq {range : Nat × Nat} {piece : Chunk} (run : chunk.IsRun range piece) :
    piece.content.lines = chunk.content.lines.extract range.1 range.2 := by
  have filled := run.filled
  have inside := run.inside
  rw [run.content_eq, Text.lines_joinLines]
  · rw [← List.length_pos_iff, List.extract_eq_take_drop, List.length_take, List.length_drop]
    omega
  · intro line member
    rw [List.extract_eq_take_drop] at member
    exact Text.not_mem_of_mem_lines (List.mem_of_mem_drop (List.mem_of_mem_take member))

theorem disjoint_of_runs (runs : List.Forall₂ chunk.IsRun ranges pieces)
    (apart : ranges.Pairwise fun left right => left.2 ≤ right.1) :
    pieces.Pairwise fun left right => left.endOffset ≤ right.startOffset := by
  refine pairwise_of_forall₂ ?_ runs apart
  intro left right piece piece' run run' before
  have := Text.lineOffset_le chunk.content.lines before
  rw [run.endOffset_eq, run'.startOffset_eq]
  omega

/-- Disjoint pieces with the lines of a chunk but for some empty ones, and with as much code. -/
structure PartitionedInto (chunk : Chunk) (pieces : List Chunk) : Prop where
  disjoint : pieces.Pairwise fun left right => left.endOffset ≤ right.startOffset
  padded : Text.PaddedTo (pieces.flatMap (·.content.lines)) chunk.content.lines
  linesOfCode_eq : ∀ markers, (pieces.map (Metrics.linesOfCode ·.content markers)).sum =
    Metrics.linesOfCode chunk.content markers

/-- A chunk that is split without overlap is partitioned. -/
theorem split_partition (chunk : Chunk) (source : Text) (preserveSignatures : Bool)
    (family : Family) (short : chunk.content.Addressable) (first : 0 ≤ chunk.startOffset)
    (slice : chunk.content = source.slice chunk.startOffset chunk.endOffset)
    (fits : ∀ line ∈ chunk.content.lines, (line.length : Int) ≤ maxSize)
    (large : maxSize < chunk.size) (positive : 1 ≤ maxSize) :
    ∃ pieces, chunk.split source maxSize 0 preserveSignatures family = .ok pieces ∧
      chunk.PartitionedInto pieces := by
  obtain ⟨layout, ranges, layoutOf, formed, sameLines, sameSize, plan, equal⟩ :=
    exists_split_lines chunk source preserveSignatures family short fits large (Int.le_refl 0)
      positive
  have apart := Split.wholeLines_zero
    (Split.Layout.overlapLines_of_ofContent (content_ne_nil large fits) layoutOf)
  have runs := isRun_pieces (if preserveSignatures then
    Split.heading chunk.signature family else []) first slice formed sameLines plan
  have padded := plan.padded apart (List.length_pos_iff.2 formed.lines_ne_nil)
  rw [List.drop_zero, sameLines, flatMap_eq_of_forall₂
    (runs.imp fun range piece run => run.lines_eq)] at padded
  exact ⟨_, equal, disjoint_of_runs runs (plan.apart apart), padded,
    fun markers => Metrics.sum_linesOfCode markers padded⟩

/-- Without overlap each of these lines but the empty one is in one part. -/
theorem split_partition_threeLines :
    ∃ pieces, threeLines.split "#\nab\n\ncd".toList 3 0 = .ok pieces ∧
      threeLines.PartitionedInto pieces :=
  split_partition threeLines _ true .brace (by decide) (by decide) (by decide) (by decide)
    (by decide) (by decide)

end Chunk

end Segmentation
