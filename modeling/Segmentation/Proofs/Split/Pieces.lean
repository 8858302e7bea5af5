import Segmentation.Proofs.Split.Layout
import Segmentation.Proofs.Split.Plan
import Segmentation.Proofs.Window

/-!
# The pieces of a chunk

A chunk comes to its pieces in one of three ways: a small one stays whole, one with a line that is
too long is cut into windows, and any other one follows a plan of its lines. `Chunk.SplitInto` says
which pieces each way gives, and `Chunk.exists_split` that there always are some.
-/

namespace Segmentation

namespace Chunk

variable {chunk : Chunk} {source : Text} {maxSize overlap : Int} {preserveSignatures : Bool}
  {family : Family}

/-- How a chunk comes to its pieces. -/
inductive SplitInto (chunk : Chunk) (source : Text) (maxSize overlap : Int)
    (preserveSignatures : Bool) (family : Family) : List Chunk → Prop where
  | whole (small : chunk.size ≤ maxSize) :
      SplitInto chunk source maxSize overlap preserveSignatures family [chunk]
  | windows (large : maxSize < chunk.size)
      (tooLong : ∃ line ∈ chunk.content.lines, maxSize < (line.length : Int)) :
      SplitInto chunk source maxSize overlap preserveSignatures family
        (chunk.windows source maxSize overlap)
  | lines {layout : Split.Layout} {ranges : List (Nat × Nat)} (large : maxSize < chunk.size)
      (layoutOf : Split.Layout.ofContent chunk.content maxSize overlap family = .ok layout)
      (formed : layout.WellFormed) (sameLines : layout.lines = chunk.content.lines)
      (sameSize : layout.maxSize = maxSize) (plan : layout.Plan 0 ranges) :
      SplitInto chunk source maxSize overlap preserveSignatures family
        (Split.pieces chunk source layout.starts
          (if preserveSignatures then Split.heading chunk.signature family else []) ranges)

theorem content_ne_nil (large : maxSize < chunk.size)
    (fits : ∀ line ∈ chunk.content.lines, (line.length : Int) ≤ maxSize) : chunk.content ≠ [] := by
  intro empty
  rw [Chunk.size, empty] at large
  have := fits [] (by rw [empty]; exact List.mem_singleton_self [])
  rw [List.length_nil] at large this
  omega

theorem SplitInto.whole_or_large {pieces : List Chunk}
    (into : SplitInto chunk source maxSize overlap preserveSignatures family pieces) :
    (chunk.size ≤ maxSize ∧ pieces = [chunk]) ∨ maxSize < chunk.size := by
  cases into with
  | whole small => exact .inl ⟨small, rfl⟩
  | windows large _ => exact .inr large
  | lines large _ _ _ _ _ => exact .inr large

/-- Splitting succeeds whenever the divisions that are made stay within double precision. -/
theorem exists_split_of_finite (chunk : Chunk) (source : Text) (preserveSignatures : Bool)
    (family : Family) (nonneg : 0 ≤ overlap)
    (isFinite : maxSize < chunk.size →
      (∀ line ∈ chunk.content.lines, (line.length : Int) ≤ maxSize) →
        Split.DivisionsFinite chunk.content maxSize overlap) :
    ∃ pieces, chunk.split source maxSize overlap preserveSignatures family = .ok pieces ∧
      SplitInto chunk source maxSize overlap preserveSignatures family pieces := by
  by_cases small : chunk.size ≤ maxSize
  · exact ⟨[chunk], by rw [split, if_pos small], .whole small⟩
  have large : maxSize < chunk.size := by omega
  by_cases tooLong : ∃ line ∈ chunk.content.lines, maxSize < (line.length : Int)
  · refine ⟨chunk.windows source maxSize overlap, ?_, .windows large tooLong⟩
    rw [split, if_neg small, if_pos]
    simpa using tooLong
  · have fits : ∀ line ∈ chunk.content.lines, (line.length : Int) ≤ maxSize :=
      fun line member => Int.not_lt.1 fun longer => tooLong ⟨line, member, longer⟩
    obtain ⟨layout, layoutOf, formed, sameLines, sameSize⟩ :=
      Split.Layout.exists_ofContent (content_ne_nil large fits) family nonneg fits
        (isFinite large fits)
    obtain ⟨ranges, planned, plan⟩ := formed.exists_plan (Nat.zero_le _)
    refine ⟨_, ?_, .lines large layoutOf formed sameLines sameSize plan⟩
    rw [split, if_neg small, if_neg (by simpa using tooLong), layoutOf]
    simp only [bind, Except.bind, planned]
    rfl

theorem exists_split (chunk : Chunk) (source : Text) (preserveSignatures : Bool) (family : Family)
    (short : chunk.content.Addressable) (nonneg : 0 ≤ overlap) (less : overlap < maxSize) :
    ∃ pieces, chunk.split source maxSize overlap preserveSignatures family = .ok pieces ∧
      SplitInto chunk source maxSize overlap preserveSignatures family pieces := by
  refine exists_split_of_finite chunk source preserveSignatures family nonneg fun large fits => ?_
  have size_lt : (chunk.size : Int) < 2 ^ 63 := by exact_mod_cast short
  exact Split.divisionsFinite_of_addressable (content_ne_nil large fits) short (by omega) (by omega)
    nonneg (by omega)

/-- A chunk that is too large and whose lines are all small enough follows a plan of its lines. -/
theorem exists_split_lines (chunk : Chunk) (source : Text) (preserveSignatures : Bool)
    (family : Family) (short : chunk.content.Addressable)
    (fits : ∀ line ∈ chunk.content.lines, (line.length : Int) ≤ maxSize)
    (large : maxSize < chunk.size) (nonneg : 0 ≤ overlap) (less : overlap < maxSize) :
    ∃ layout ranges, Split.Layout.ofContent chunk.content maxSize overlap family = .ok layout ∧
      layout.WellFormed ∧ layout.lines = chunk.content.lines ∧ layout.maxSize = maxSize ∧
      layout.Plan 0 ranges ∧
      chunk.split source maxSize overlap preserveSignatures family =
        .ok (Split.pieces chunk source layout.starts
          (if preserveSignatures then Split.heading chunk.signature family else []) ranges) := by
  obtain ⟨pieces, equal, into⟩ :=
    exists_split chunk source preserveSignatures family short nonneg less
  cases into with
  | whole small => exact absurd large (Int.not_lt.2 small)
  | windows _ tooLong =>
      obtain ⟨line, member, longer⟩ := tooLong
      exact absurd (fits line member) (Int.not_le.2 longer)
  | lines _ layoutOf formed sameLines sameSize plan =>
      exact ⟨_, _, layoutOf, formed, sameLines, sameSize, plan, equal⟩

end Chunk

namespace Split

variable {layout : Layout} {ranges : List (Nat × Nat)}

/-- Where the lines of a range stand in the source of a chunk that starts at `start`. -/
def rangeAt (layout : Layout) (start : Int) (range : Nat × Nat) : Int × Int :=
  (start + Text.lineOffset layout.lines range.1, start + Text.lineOffset layout.lines range.2 - 1)

theorem Layout.WellFormed.getD_starts (formed : layout.WellFormed) {line : Nat}
    (inside : line ≤ layout.count) :
    layout.starts.getD line 0 = Text.lineOffset layout.lines line := by
  rw [formed.starts_eq, Array.getD_eq_getD_getElem?, getElem?_lineStarts layout.lines line inside]
  rfl

theorem pieces_ranges (chunk : Chunk) (source heading : Text) (formed : layout.WellFormed)
    (inside : ∀ range ∈ ranges, range.1 ≤ layout.count ∧ range.2 ≤ layout.count) :
    (pieces chunk source layout.starts heading ranges).map Chunk.range =
      ranges.map (rangeAt layout chunk.startOffset) := by
  rw [pieces, map_mapIdx
    (fun range => (chunk.startOffset + layout.starts.getD range.1 0,
      chunk.startOffset + layout.starts.getD range.2 0 - 1)) (fun _ _ => rfl)]
  apply List.map_congr_left
  intro range member
  obtain ⟨first, stop⟩ := inside range member
  rw [formed.getD_starts first, formed.getD_starts stop]
  rfl

end Split

end Segmentation
