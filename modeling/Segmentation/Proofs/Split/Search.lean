import Segmentation.Proofs.Split.Layout
import Segmentation.Proofs.Split.Progress

/-!
# The search for the place to cut

A search looks at the lines around an ideal one, but only at those behind the start of the part and
not behind its limit. `IsSplitPoint` says what it finds wherever the ideal line lies: the earliest
of the best lines of that window, or, when the window is empty, the end of the allowed range that is
nearest to the ideal line. `Layout.Searches` lists the searches of a plan; none of their windows is
empty.
-/

namespace Segmentation.Split

/-! ## What a search finds -/

/-- The line before which a part that starts at `current` and may reach up to `limit` is best cut
around `ideal`. -/
structure IsSplitPoint (lines : List Text) (family : Family) (current ideal limit split : Int) :
    Prop where
  current_lt : current < split
  le_limit : split ≤ limit
  best : searchFirst current ideal ≤ searchLast limit ideal →
    IsFirstBest (positionScore lines family) (searchFirst current ideal) (searchLast limit ideal)
      split
  nearest : searchLast limit ideal < searchFirst current ideal →
    ideal < current + 1 ∧ split = current + 1 ∨ limit < ideal ∧ split = limit

variable {lines : List Text} {family : Family} {current ideal limit split : Int}

/-- The earliest of the best lines of a window lies behind the start and not behind the limit. -/
theorem IsFirstBest.isSplitPoint
    (best : IsFirstBest (positionScore lines family) (searchFirst current ideal)
      (searchLast limit ideal) split) :
    IsSplitPoint lines family current ideal limit split := by
  have low := best.first_le
  have high := best.le_last
  have first : current + 1 ≤ searchFirst current ideal := Int.le_max_left _ _
  have last : searchLast limit ideal ≤ limit := Int.min_le_left _ _
  exact ⟨by omega, by omega, fun _ => best, fun empty => by omega⟩

/-- A search without any position gives the end of the allowed range that is nearest to the ideal
line. -/
theorem splitPoint_of_empty (lines : List Text) (family : Family)
    (empty : searchLast limit ideal < searchFirst current ideal) :
    splitPoint lines current ideal limit family =
      .ok (min (max ideal (current + 1)) limit) := by
  have noSteps : (searchLast limit ideal + 1 - searchFirst current ideal).toNat = 0 := by omega
  rw [splitPoint_eq, noSteps, bestFrom]

/-- An empty window lies before the allowed range or behind it, as the ideal line does. -/
theorem isSplitPoint_of_empty (lines : List Text) (family : Family) (room : current < limit)
    (empty : searchLast limit ideal < searchFirst current ideal) :
    IsSplitPoint lines family current ideal limit (min (max ideal (current + 1)) limit) := by
  refine ⟨by omega, Int.min_le_right _ _, fun filled => by omega, fun _ => ?_⟩
  simp only [searchFirst, searchLast] at empty
  rcases Int.lt_or_le ideal (current + 1) with before | behind
  · exact .inl ⟨before, by omega⟩
  · exact .inr ⟨by omega, by omega⟩

theorem exists_splitPoint (lines : List Text) (family : Family) (ideal : Int)
    (nonneg : 0 ≤ current) (room : current < limit) :
    ∃ split, splitPoint lines current ideal limit family = .ok split ∧
      IsSplitPoint lines family current ideal limit split := by
  rcases Int.lt_or_le (searchLast limit ideal) (searchFirst current ideal) with empty | filled
  · exact ⟨_, splitPoint_of_empty lines family empty, isSplitPoint_of_empty lines family room empty⟩
  · obtain ⟨split, equal, best⟩ := splitPoint_isFirstBest lines family nonneg filled
    exact ⟨split, equal, best.isSplitPoint⟩

/-! ## The searches of a plan -/

namespace Layout

variable {layout : Layout}

/-- A search that the planning from a line on makes, given by where its part starts and how far it
may reach: the one of this turn, or one of the turns behind it. -/
inductive Searches (layout : Layout) : Nat → Nat → Nat → Prop where
  | here {current limit : Nat} (exceeds : layout.Exceeds current)
      (limitEqual : layout.limitFrom current (current + 1) = .ok limit) :
      Searches layout current current limit
  | later {start next current limit : Nat} {range : Option (Nat × Nat)}
      (made : layout.turn start = .ok (range, some next))
      (further : Searches layout next current limit) : Searches layout start current limit

theorem limitFrom_le {current limit furthest : Nat}
    (equal : layout.limitFrom current limit = .ok furthest) :
    limit ≤ furthest ∧ (limit ≤ layout.count → furthest ≤ layout.count) := by
  fun_induction limitFrom layout current limit with
  | case1 limit inside ih =>
      obtain ⟨size, -, equal⟩ := bind_eq_ok.1 equal
      split at equal
      · obtain ⟨grown, stops⟩ := ih size equal
        exact ⟨by omega, fun _ => stops inside⟩
      · obtain rfl := Except.ok.inj equal
        exact ⟨Nat.le_refl _, id⟩
  | case2 limit outside =>
      obtain rfl := Except.ok.inj equal
      exact ⟨Nat.le_refl _, id⟩

variable {content : Text} {maxSize overlap : Int}

/-- Whatever the sizes are, a content is laid out by the starts of its own lines, and its parts aim
at one line at least. -/
theorem aim_of_ofContent
    (layoutOf : ofContent content maxSize overlap family = .ok layout) :
    layout.lines = content.lines ∧ layout.starts = (lineStarts content.lines).toArray ∧
      layout.maxSize = maxSize ∧ 1 ≤ layout.linesPerPart := by
  have hasLine := Text.length_lines_pos content
  unfold ofContent at layoutOf
  dsimp only at layoutOf
  split at layoutOf
  · obtain rfl := Except.ok.inj layoutOf
    exact ⟨rfl, rfl, rfl, Int.natCast_pos.2 hasLine⟩
  · obtain ⟨lines, -, layoutOf⟩ := bind_eq_ok.1 layoutOf
    obtain ⟨back, -, layoutOf⟩ := bind_eq_ok.1 layoutOf
    obtain rfl := Except.ok.inj layoutOf
    exact ⟨rfl, rfl, rfl, Int.le_max_left 1 lines⟩

theorem Exceeds.lt_count {current : Nat} (exceeds : layout.Exceeds current)
    (starts : layout.starts.size = layout.count + 1) (nonneg : 0 ≤ layout.maxSize) :
    current < layout.count := by
  obtain ⟨rest, measured, large⟩ := exceeds
  obtain ⟨start, after, found, found', rfl⟩ := sizeOf_eq_ok.1 measured
  have inside := (Array.getElem?_eq_some_iff.1 found).1
  rcases Nat.lt_or_ge current layout.count with before | behind
  · exact before
  · obtain rfl : current = layout.count := by omega
    obtain rfl := Option.some.inj (found.symm.trans found')
    omega

/-- The searches of a plan have some line to look at, and look for a cut among the lines. -/
theorem Searches.window {start current limit : Nat}
    (layoutOf : ofContent content maxSize overlap family = .ok layout)
    (searches : layout.Searches start current limit) :
    current < limit ∧ (0 ≤ maxSize → limit ≤ content.lines.length) ∧
      searchFirst current (layout.ideal current limit) ≤
        searchLast limit (layout.ideal current limit) := by
  obtain ⟨sameLines, starts, rfl, aim⟩ := aim_of_ofContent layoutOf
  induction searches with
  | @here current limit exceeds limitEqual =>
      obtain ⟨grown, stops⟩ := limitFrom_le limitEqual
      refine ⟨grown, fun nonneg => ?_, ?_⟩
      · have size : layout.starts.size = layout.count + 1 := by
          rw [starts, count, sameLines, List.size_toArray, lineStarts, length_lineStartsFrom]
        rw [← sameLines]
        exact stops (exceeds.lt_count size nonneg)
      · simp only [searchFirst, searchLast, ideal]
        omega
  | later made further ih => exact ih

end Layout

/-- Wherever the ideal line lies, a search finds the best cut around it, and no search of a plan has
an empty window. -/
theorem splitPoint_clamped :
    (∀ (lines : List Text) (family : Family) (current ideal limit : Int),
      0 ≤ current → current < limit →
        ∃ split, splitPoint lines current ideal limit family = .ok split ∧
          IsSplitPoint lines family current ideal limit split) ∧
    ∀ (content : Text) (maxSize overlap : Int) (family : Family) (layout : Layout),
      Layout.ofContent content maxSize overlap family = .ok layout →
        ∀ current limit, layout.Searches 0 current limit →
          current < limit ∧ (0 ≤ maxSize → limit ≤ content.lines.length) ∧
            searchFirst current (layout.ideal current limit) ≤
              searchLast limit (layout.ideal current limit) := by
  refine ⟨?found, ?window⟩
  case found =>
    intro lines family current ideal limit nonneg room
    exact exists_splitPoint lines family ideal nonneg room
  case window =>
    intro content maxSize overlap family layout layoutOf current limit searches
    exact searches.window layoutOf

/-- Three short lines, the second one empty: a search around the first line, one around a line that
is not there, and the first search of the plan. -/
theorem splitPoint_clamped_emptyLine :
    (∃ split, splitPoint (Text.lines "ab\n\ncd".toList) 0 1 2 .brace = .ok split ∧
      IsSplitPoint (Text.lines "ab\n\ncd".toList) .brace 0 1 2 split) ∧
    (∃ split, splitPoint (Text.lines "ab\n\ncd".toList) 0 40 2 .brace = .ok split ∧
      IsSplitPoint (Text.lines "ab\n\ncd".toList) .brace 0 40 2 split) ∧
    ∃ layout, Layout.ofContent "ab\n\ncd".toList 3 1 .brace = .ok layout ∧
      ∃ limit, layout.Searches 0 0 limit ∧ 0 < limit ∧
        ((0 : Int) ≤ 3 → limit ≤ (Text.lines "ab\n\ncd".toList).length) ∧
          searchFirst 0 (layout.ideal 0 limit) ≤ searchLast limit (layout.ideal 0 limit) := by
  have isFinite : DivisionsFinite "ab\n\ncd".toList 3 1 :=
    ⟨by decide +kernel, by decide +kernel, by decide +kernel⟩
  obtain ⟨layout, layoutOf, formed, sameLines, sameSize⟩ :=
    Layout.exists_ofContent (by decide) .brace (by decide) (by decide) isFinite
  have inside : 0 < layout.count := List.length_pos_iff.2 formed.lines_ne_nil
  have overfull : layout.maxSize < layout.span 0 layout.count := by
    rw [Layout.span, Layout.count, sameLines, sameSize]
    decide
  obtain ⟨limit, -, limitEqual, -, -⟩ := formed.exists_cut inside overfull
  have searches : layout.Searches 0 0 limit :=
    .here ⟨_, formed.sizeOf_eq (Nat.zero_le _) (Nat.le_refl _), overfull⟩ limitEqual
  refine ⟨splitPoint_clamped.1 _ .brace 0 1 2 (by decide) (by decide),
    splitPoint_clamped.1 _ .brace 0 40 2 (by decide) (by decide), layout, layoutOf, limit,
    searches, ?_⟩
  exact splitPoint_clamped.2 _ 3 1 .brace layout layoutOf 0 limit searches

end Segmentation.Split
