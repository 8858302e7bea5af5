import Segmentation.Proofs.Split.Pieces

/-!
# Pieces that repeat others

Cuts never go back: a later part stops at the cut of an earlier one or behind it. It can stop at the
very same cut, because stepping back only moves the start. Then the later part holds nothing that
the earlier one does not hold. `Layout.Repetition` says exactly when this happens.
-/

namespace Segmentation

namespace Split.Layout

variable {layout : Layout} {current current' limit limit' split split' : Nat}

/-! ## Later cuts -/

theorem Furthest.limit_le (earlier : layout.Furthest current limit)
    (later : layout.Furthest current' limit') (ordered : current ≤ current') :
    limit ≤ limit' := by
  rcases Nat.lt_or_ge limit' limit with short | long
  · have shrunk : layout.span current' (limit' + 1) ≤ layout.span current limit :=
      span_le_span ordered short
    have := earlier.fits
    have := later.full
    omega
  · exact long

theorem Furthest.unique (left : layout.Furthest current limit)
    (right : layout.Furthest current limit') : limit = limit' :=
  Nat.le_antisymm (left.limit_le right (Nat.le_refl _)) (right.limit_le left (Nat.le_refl _))

theorem Cut.unique (left : layout.Cut current limit split)
    (right : layout.Cut current limit' split') : limit = limit' ∧ split = split' := by
  obtain rfl := left.toFurthest.unique right.toFurthest
  have := left.best.unique right.best
  exact ⟨rfl, by omega⟩

theorem searchFirst_le (layout : Layout) (ordered : current ≤ current') (limits : limit ≤ limit') :
    searchFirst current (layout.ideal current limit) ≤
      searchFirst current' (layout.ideal current' limit') := by
  simp only [searchFirst, ideal]
  omega

theorem searchLast_le (layout : Layout) (ordered : current ≤ current') (limits : limit ≤ limit') :
    searchLast limit (layout.ideal current limit) ≤
      searchLast limit' (layout.ideal current' limit') := by
  simp only [searchLast, ideal]
  omega

/-- Cuts never go back: a line before the earlier cut would have been the better one for the earlier
part already. -/
theorem Cut.split_mono (earlier : layout.Cut current limit split)
    (later : layout.Cut current' limit' split') (ordered : current ≤ current') :
    split ≤ split' := by
  have limits := earlier.toFurthest.limit_le later.toFurthest ordered
  have lows := searchFirst_le layout ordered limits
  have highs := searchLast_le layout ordered limits
  rcases Nat.lt_or_ge split' split with back | forward
  · have atLeast := later.best.first_le
    have atMost := earlier.best.le_last
    have worse := earlier.best.earliest split' (by omega) (by omega)
    have better := later.best.greatest split (by omega) (by omega)
    omega
  · exact forward

/-! ## Repeated cuts -/

/-- The part after the one that starts at `current` stops at the same line again: its own search
reaches back to that line, finds nothing better behind it, and there is text before it. -/
structure Repetition (layout : Layout) (current limit split limit' : Nat) : Prop where
  first : layout.Cut current limit split
  second : layout.Furthest (layout.next current split) limit'
  reachesBack : searchFirst (layout.next current split)
    (layout.ideal (layout.next current split) limit') ≤ split
  noneBetter : ∀ position : Int, split < position →
    position ≤ searchLast limit' (layout.ideal (layout.next current split) limit') →
    positionScore layout.lines layout.family position ≤
      positionScore layout.lines layout.family split
  filled : 0 < layout.span (layout.next current split) split

theorem repetition_iff :
    layout.Repetition current limit split limit' ↔
      layout.Cut current limit split ∧ layout.Cut (layout.next current split) limit' split ∧
        0 < layout.span (layout.next current split) split := by
  have forward := Nat.le_of_lt (current_lt_next layout current split)
  constructor
  · intro repeated
    have limits := repeated.first.toFurthest.limit_le repeated.second forward
    have lows := searchFirst_le layout forward limits
    have highs := searchLast_le layout forward limits
    have atMost := repeated.first.best.le_last
    refine ⟨repeated.first, ⟨repeated.second, repeated.reachesBack, by omega, ?_, ?_⟩,
      repeated.filled⟩
    · intro position onward upTo
      rcases Int.lt_or_le split position with behind | notBehind
      · exact repeated.noneBetter position behind upTo
      · exact repeated.first.best.greatest position (by omega) (by omega)
    · intro position onward before
      exact repeated.first.best.earliest position (by omega) before
  · rintro ⟨first, second, filled⟩
    have atLeast := second.best.first_le
    refine ⟨first, second.toFurthest, atLeast, fun position behind upTo => ?_, filled⟩
    exact second.best.greatest position (by omega) upTo

/-- The lines at which the cursor stands, from a given one on. -/
inductive Reaches (layout : Layout) : Nat → Nat → Prop where
  | here {current : Nat} : Reaches layout current current
  | further {current limit split cursor : Nat} (made : layout.Cut current limit split)
      (rest : Reaches layout (layout.next current split) cursor) : Reaches layout current cursor

/-- No part from `current` on is followed by one that stops at the same cut. -/
def NeverRepeats (layout : Layout) (current : Nat) : Prop :=
  ∀ cursor, layout.Reaches current cursor →
    ∀ limit split limit', ¬layout.Repetition cursor limit split limit'

/-- A layout whose parts share no line repeats nothing. -/
theorem neverRepeats_of_overlapLines_eq_zero (none : layout.overlapLines = 0) :
    layout.NeverRepeats current := by
  intro cursor _ limit split limit' repeated
  have above := repeated.first.current_lt
  have same : layout.next cursor split = split := by
    simp only [next, none]
    omega
  have := lt_of_span_pos repeated.filled
  omega

theorem neverRepeats_of_fits (fits : layout.span current layout.count ≤ layout.maxSize) :
    layout.NeverRepeats current := by
  intro cursor reached limit split limit' repeated
  cases reached with
  | here =>
      have := repeated.first.overfull
      omega
  | further made rest =>
      have := made.overfull
      omega

theorem neverRepeats_cut_iff (made : layout.Cut current limit split) :
    layout.NeverRepeats current ↔ (∀ limit', ¬layout.Repetition current limit split limit') ∧
      layout.NeverRepeats (layout.next current split) := by
  constructor
  · intro never
    refine ⟨fun limit' => never current .here limit split limit', ?_⟩
    intro cursor reached
    exact never cursor (.further made reached)
  · rintro ⟨notHere, never⟩ cursor reached limit₁ split₁ limit' repeated
    cases reached with
    | here =>
        obtain ⟨rfl, rfl⟩ := made.unique repeated.first
        exact notHere limit' repeated
    | further made' rest =>
        obtain ⟨rfl, rfl⟩ := made.unique made'
        exact never cursor rest _ _ _ repeated

/-! ## Ends of planned ranges -/

/-- After a cut, all planned ranges stop behind it unless the cut is repeated at once. -/
theorem Plan.split_lt_iff {others : List (Nat × Nat)} (formed : layout.WellFormed)
    (made : layout.Cut current limit split)
    (further : layout.Plan (layout.next current split) others) :
    (∀ range ∈ others, split < range.2) ↔
      ∀ limit', ¬layout.Repetition current limit split limit' := by
  have forward := Nat.le_of_lt (current_lt_next layout current split)
  constructor
  · intro behind limit' repeated
    obtain ⟨-, again, filled⟩ := repetition_iff.1 repeated
    cases further with
    | rest fits =>
        have := again.overfull
        omega
    | cut made' further' =>
        obtain ⟨rfl, rfl⟩ := again.unique made'
        rw [if_pos filled] at behind
        have := behind _ List.mem_cons_self
        simp at this
  · intro notRepeated
    refine further.forall_range (fun _ stop => split < stop) ?_ ?_
    · intro first _ _ _
      exact made.split_lt
    · intro first limit' split' onward cut filled
      rcases Nat.eq_or_lt_of_le (made.split_mono cut (by omega)) with same | behind
      · -- the cuts from the next cursor to this one lie between two equal ones
        subst same
        have overfull : layout.maxSize <
            layout.span (layout.next current split) layout.count :=
          Int.lt_of_lt_of_le cut.overfull (span_le_span onward (Nat.le_refl _))
        have nextInside : layout.next current split < layout.count :=
          Nat.lt_of_le_of_lt (formed.next_le made) made.split_lt
        obtain ⟨limit'', split'', -, -, cut''⟩ := formed.exists_cut nextInside overfull
        have low := made.split_mono cut'' forward
        have high := cut''.split_mono cut onward
        obtain rfl : split = split'' := by omega
        have wider : layout.span first split ≤ layout.span (layout.next current split) split :=
          span_le_span onward (Nat.le_refl _)
        exact absurd (repetition_iff.2 ⟨made, cut'', by omega⟩) (notRepeated limit'')
      · exact behind

/-- Every planned range stops behind the one before it exactly if no cut is repeated. -/
theorem Plan.ends_increase_iff {ranges : List (Nat × Nat)} (plan : layout.Plan current ranges)
    (formed : layout.WellFormed) :
    (ranges.Pairwise fun left right => left.2 < right.2) ↔ layout.NeverRepeats current := by
  induction plan with
  | rest fits =>
      have never := neverRepeats_of_fits fits
      split <;> simp [never]
  | @cut current limit split others made further ih =>
      rw [neverRepeats_cut_iff made, ← ih, ← Plan.split_lt_iff formed made further]
      split
      · rw [List.pairwise_cons]
      · next empty =>
          have single := made.split_eq_succ empty
          have behind : ∀ range ∈ others, split < range.2 := by
            intro range member
            have forward := current_lt_next layout current split
            have start := further.current_le range member
            have bounds := further.range_bounds range member
            omega
          exact ⟨fun later => ⟨behind, later⟩, And.right⟩

end Split.Layout

namespace Chunk

/-- Whether the chunk stands within the range of another one. -/
def Within (inner outer : Chunk) : Prop :=
  outer.startOffset ≤ inner.startOffset ∧ inner.endOffset ≤ outer.endOffset

instance (inner outer : Chunk) : Decidable (inner.Within outer) :=
  inferInstanceAs (Decidable (_ ∧ _))

/-- No two of the pieces stand one within the other. -/
def Irredundant (pieces : List Chunk) : Prop :=
  pieces.Pairwise fun left right => ¬left.Within right ∧ ¬right.Within left

instance (pieces : List Chunk) : Decidable (Irredundant pieces) :=
  inferInstanceAs (Decidable (List.Pairwise _ _))

theorem irredundant_iff_ranges (pieces : List Chunk) :
    Irredundant pieces ↔ (pieces.map range).Pairwise fun left right =>
      ¬(right.1 ≤ left.1 ∧ left.2 ≤ right.2) ∧ ¬(left.1 ≤ right.1 ∧ right.2 ≤ left.2) := by
  rw [List.pairwise_map]
  exact Iff.rfl

/-- Pieces that each start after the one before it are irredundant if they end so, too. -/
theorem irredundant_pieces_iff (chunk : Chunk) (source heading : Text) {layout : Split.Layout}
    {ranges : List (Nat × Nat)} (formed : layout.WellFormed) (plan : layout.Plan 0 ranges) :
    Irredundant (Split.pieces chunk source layout.starts heading ranges) ↔
      ranges.Pairwise fun left right => left.2 < right.2 := by
  rw [irredundant_iff_ranges, Split.pieces_ranges chunk source heading formed plan.inside,
    List.pairwise_map]
  constructor
  · intro apart
    refine (plan.starts_increase.and apart).imp ?_
    rintro left right ⟨starts, -, notWithin⟩
    rcases Nat.lt_or_ge left.2 right.2 with before | behind
    · exact before
    · have low := Text.lineOffset_le layout.lines (Nat.le_of_lt starts)
      have high := Text.lineOffset_le layout.lines behind
      simp only [Split.rangeAt] at notWithin
      omega
  · intro ends
    refine (plan.starts_increase.and ends).imp_of_mem ?_
    rintro left right - member ⟨starts, stops⟩
    obtain ⟨startInside, stopInside⟩ := plan.inside right member
    have low := Text.lineOffset_lt starts startInside
    have high := Text.lineOffset_lt stops stopInside
    simp only [Split.rangeAt]
    omega

variable {maxSize overlap : Int}

/-- A chunk whose lines all fit into parts is split without redundant pieces exactly if it is small
enough or its layout never repeats a cut. -/
theorem exists_split_irredundant_iff (chunk : Chunk) (source : Text) (preserveSignatures : Bool)
    (family : Family) (short : chunk.content.Addressable)
    (fits : ∀ line ∈ chunk.content.lines, (line.length : Int) ≤ maxSize) (nonneg : 0 ≤ overlap)
    (less : overlap < maxSize) :
    ∃ pieces, chunk.split source maxSize overlap preserveSignatures family = .ok pieces ∧
      (Irredundant pieces ↔ (maxSize < chunk.size → ∀ layout,
        Split.Layout.ofContent chunk.content maxSize overlap family = .ok layout →
          layout.NeverRepeats 0)) := by
  obtain ⟨pieces, equal, into⟩ :=
    exists_split chunk source preserveSignatures family short nonneg less
  refine ⟨pieces, equal, ?_⟩
  cases into with
  | whole small =>
      have notLarge : ¬maxSize < chunk.size := by omega
      simp [Irredundant, notLarge]
  | windows large tooLong =>
      obtain ⟨line, member, longer⟩ := tooLong
      have := fits line member
      omega
  | lines large layoutOf formed sameLines sameSize plan =>
      rw [irredundant_pieces_iff chunk source _ formed plan, plan.ends_increase_iff formed]
      constructor
      · intro never _ layout' layoutOf'
        rw [layoutOf, Except.ok.injEq] at layoutOf'
        rwa [← layoutOf']
      · intro never
        exact never large _ layoutOf

/-- Four short lines, in parts that do not step back. -/
theorem exists_split_irredundant_iff_four_lines :
    ∃ pieces, (wholeSource .other "text" "\na\n\n# c".toList).split "\na\n\n# c".toList 5 0 =
        .ok pieces ∧
      (Irredundant pieces ↔ ((5 : Int) < (wholeSource .other "text" "\na\n\n# c".toList).size →
        ∀ layout, Split.Layout.ofContent "\na\n\n# c".toList 5 0 .brace = .ok layout →
          layout.NeverRepeats 0)) :=
  exists_split_irredundant_iff _ _ true .brace (by decide) (by decide) (by decide) (by decide)

/-- Of these four lines the second is a part of its own and also the end of the part before it. -/
theorem split_redundant_four_lines :
    (∀ line ∈ Text.lines "\na\n\n# c".toList, line.length ≤ 5) ∧
      ∃ pieces,
        (wholeSource .other "text" "\na\n\n# c".toList).split "\na\n\n# c".toList 5 3 =
          .ok pieces ∧
        pieces.map range = [(0, 2), (1, 2), (3, 7)] ∧ ¬Irredundant pieces := by
  refine ⟨by decide, ?_⟩
  have ranges :
      ((wholeSource .other "text" "\na\n\n# c".toList).split "\na\n\n# c".toList 5 3).map
        (·.map range) = .ok [(0, 2), (1, 2), (3, 7)] := by
    decide +kernel
  cases equal :
      (wholeSource .other "text" "\na\n\n# c".toList).split "\na\n\n# c".toList 5 3 with
  | error failure =>
      rw [equal, Except.map] at ranges
      exact absurd ranges (by simp)
  | ok pieces =>
      rw [equal, Except.map, Except.ok.injEq] at ranges
      refine ⟨pieces, rfl, ranges, ?_⟩
      rw [irredundant_iff_ranges, ranges]
      decide

end Chunk

end Segmentation
