import Segmentation.Proofs.Split.Cut

/-!
# The plan of a chunk's parts

`Layout.Plan` is the relation between the line at which the next part starts and the ranges of lines
from there on: either the rest fits into one part, or there is a cut and the plan goes on after it.
`rangesFrom` computes a plan from every line (`exists_plan`), so what is said about the ranges below
follows by induction over plans, one case for the last part and one for a cut.
-/

namespace Segmentation.Split.Layout

/-- The ranges of lines from `current` on. A range without any text is left out. -/
inductive Plan (layout : Layout) : Nat → List (Nat × Nat) → Prop where
  | rest {current : Nat} (fits : layout.span current layout.count ≤ layout.maxSize) :
      Plan layout current
        (if 0 < layout.span current layout.count then [(current, layout.count)] else [])
  | cut {current limit split : Nat} {others : List (Nat × Nat)}
      (made : layout.Cut current limit split)
      (further : Plan layout (layout.next current split) others) :
      Plan layout current
        (if 0 < layout.span current split then (current, split) :: others else others)

variable {layout : Layout}

/-! ## The cursor -/

theorem current_lt_next (layout : Layout) (current split : Nat) :
    current < layout.next current split := by
  simp only [next]
  omega

/-- Stepping back never leaves a gap: the next part starts at the cut or before it. -/
theorem WellFormed.next_le (formed : layout.WellFormed) {current limit split : Nat}
    (cut : layout.Cut current limit split) : layout.next current split ≤ split := by
  have back := formed.overlapLines_nonneg
  have above := cut.current_lt
  simp only [next]
  omega

/-! ## Planning -/

theorem WellFormed.rangesFrom_rest (formed : layout.WellFormed) {current : Nat}
    (inside : current ≤ layout.count)
    (fits : layout.span current layout.count ≤ layout.maxSize) :
    layout.rangesFrom current =
      .ok (if 0 < layout.span current layout.count then [(current, layout.count)] else []) := by
  rw [rangesFrom, if_neg (Nat.not_lt.2 inside)]
  simp only [formed.sizeOf_eq inside (Nat.le_refl layout.count), bind, Except.bind, if_pos fits]
  rfl

theorem WellFormed.rangesFrom_cut (formed : layout.WellFormed) {current limit split : Nat}
    (limitEqual : layout.limitFrom current (current + 1) = .ok limit)
    (splitEqual : splitPoint layout.lines current (layout.ideal current limit) limit layout.family =
      .ok (split : Int))
    (cut : layout.Cut current limit split) {others : List (Nat × Nat)}
    (further : layout.rangesFrom (layout.next current split) = .ok others) :
    layout.rangesFrom current =
      .ok (if 0 < layout.span current split then (current, split) :: others else others) := by
  have above := cut.current_lt
  have below := cut.split_lt
  have overfull : ¬layout.span current layout.count ≤ layout.maxSize := by
    have := cut.overfull
    omega
  have inside : ¬layout.lines.length < current := by
    have : split < layout.lines.length := below
    omega
  have fullSize := formed.sizeOf_eq (show current ≤ layout.count by omega) (Nat.le_refl _)
  have partSize := formed.sizeOf_eq (show current ≤ layout.count by omega) (Nat.le_of_lt below)
  simp only [ideal] at splitEqual
  rw [rangesFrom, if_neg inside]
  simp only [fullSize, bind, Except.bind, if_neg overfull, limitEqual, splitEqual,
    Int.toNat_natCast, partSize]
  rw [show max ((split : Int) - layout.overlapLines).toNat (current + 1) =
    layout.next current split from rfl, further]
  rfl

/-- From every line there is a plan, and it is the one that is computed. -/
theorem WellFormed.exists_plan (formed : layout.WellFormed) {current : Nat}
    (inside : current ≤ layout.count) :
    ∃ ranges, layout.rangesFrom current = .ok ranges ∧ layout.Plan current ranges := by
  induction remaining : layout.count - current using Nat.strongRecOn
    generalizing current with
  | ind remaining ih =>
      by_cases fits : layout.span current layout.count ≤ layout.maxSize
      · exact ⟨_, formed.rangesFrom_rest inside fits, .rest fits⟩
      · have below : current < layout.count := by
          rcases Nat.eq_or_lt_of_le inside with last | inner
          · have := formed.maxSize_nonneg
            rw [last] at fits
            simp only [span] at fits
            omega
          · exact inner
        obtain ⟨limit, split, limitEqual, splitEqual, cut⟩ :=
          formed.exists_cut below (by omega)
        have forward := current_lt_next layout current split
        have within := Nat.le_trans (formed.next_le cut) (Nat.le_of_lt cut.split_lt)
        obtain ⟨others, equal, further⟩ :=
          ih (layout.count - layout.next current split) (by omega) within rfl
        exact ⟨_, formed.rangesFrom_cut limitEqual splitEqual cut equal, .cut cut further⟩

/-- Whatever the layout, a range that is kept stops at a line that starts behind another one. -/
theorem stop_pos_of_rangesFrom {current : Nat} {ranges : List (Nat × Nat)}
    (planned : layout.rangesFrom current = .ok ranges) :
    ∀ range ∈ ranges, 0 < layout.starts.getD range.2 0 := by
  have stop_pos {first stop : Nat} {size : Int} (measured : layout.sizeOf first stop = .ok size)
      (filled : 0 < size) : 0 < layout.starts.getD stop 0 := by
    obtain ⟨start, after, -, found, rfl⟩ := sizeOf_eq_ok.1 measured
    rw [Array.getD_eq_getD_getElem?, found, Option.getD_some]
    omega
  induction remaining : layout.lines.length + 1 - current using Nat.strongRecOn
    generalizing current ranges with
  | ind remaining ih =>
      rw [rangesFrom] at planned
      split at planned
      · exact absurd planned (by simp)
      · next inside =>
          obtain ⟨rest, restSize, planned⟩ := bind_eq_ok.1 planned
          split at planned
          · obtain rfl := Except.ok.inj planned
            split
            · next filled => exact List.forall_mem_singleton.2 (stop_pos restSize filled)
            · exact List.forall_mem_nil _
          · obtain ⟨limit, -, planned⟩ := bind_eq_ok.1 planned
            obtain ⟨split, -, planned⟩ := bind_eq_ok.1 planned
            obtain ⟨size, partSize, planned⟩ := bind_eq_ok.1 planned
            obtain ⟨others, further, planned⟩ := bind_eq_ok.1 planned
            obtain rfl := Except.ok.inj planned
            have later := ih _ (by omega) further rfl
            split
            · next filled => exact List.forall_mem_cons.2 ⟨stop_pos partSize filled, later⟩
            · exact later

/-! ## What every plan keeps -/

/-- A property of ranges that the last part and every cut have holds of all planned ranges. -/
theorem Plan.forall_range {current : Nat} {ranges : List (Nat × Nat)}
    (plan : layout.Plan current ranges) (property : Nat → Nat → Prop)
    (last : ∀ first, current ≤ first → layout.span first layout.count ≤ layout.maxSize →
      0 < layout.span first layout.count → property first layout.count)
    (inner : ∀ first limit split, current ≤ first → layout.Cut first limit split →
      0 < layout.span first split → property first split) :
    ∀ range ∈ ranges, property range.1 range.2 := by
  induction plan with
  | @rest current fits =>
      intro range member
      split at member
      · next filled =>
          rw [List.mem_singleton] at member
          subst member
          exact last current (Nat.le_refl _) fits filled
      · simp at member
  | @cut current limit split others made further ih =>
      have forward := current_lt_next layout current split
      have rest := ih
        (fun first onward => last first (by omega))
        (fun first limit split onward => inner first limit split (by omega))
      intro range member
      split at member
      · next filled =>
          rcases List.mem_cons.1 member with same | later
          · subst same
            exact inner current limit split (Nat.le_refl _) made filled
          · exact rest range later
      · exact rest range member

theorem Plan.current_le {current : Nat} {ranges : List (Nat × Nat)}
    (plan : layout.Plan current ranges) : ∀ range ∈ ranges, current ≤ range.1 :=
  plan.forall_range (fun first _ => current ≤ first)
    (fun _ onward _ _ => onward) (fun _ _ _ onward _ _ => onward)

/-- A relation that each part has to all ranges from the next cursor on holds between any two
planned ranges. -/
theorem Plan.pairwise_range {current : Nat} {ranges : List (Nat × Nat)}
    (plan : layout.Plan current ranges) (related : Nat × Nat → Nat × Nat → Prop)
    (behind : ∀ first limit split, layout.Cut first limit split → ∀ range : Nat × Nat,
      layout.next first split ≤ range.1 → related (first, split) range) :
    ranges.Pairwise related := by
  induction plan with
  | rest fits =>
      split
      · exact List.pairwise_singleton _ _
      · exact .nil
  | @cut current limit split others made further ih =>
      split
      · exact List.pairwise_cons.2 ⟨fun range member =>
          behind current limit split made range (further.current_le range member), ih⟩
      · exact ih

theorem Plan.starts_increase {current : Nat} {ranges : List (Nat × Nat)}
    (plan : layout.Plan current ranges) :
    ranges.Pairwise fun left right => left.1 < right.1 :=
  plan.pairwise_range _ fun first _ split _ _ after =>
    Nat.lt_of_lt_of_le (current_lt_next layout first split) after

/-- The size of a range that is worth keeping: it holds some text and fits into one part. -/
theorem Plan.range_bounds {current : Nat} {ranges : List (Nat × Nat)}
    (plan : layout.Plan current ranges) :
    ∀ range ∈ ranges, range.1 < range.2 ∧ range.2 ≤ layout.count ∧
      0 < layout.span range.1 range.2 ∧ layout.span range.1 range.2 ≤ layout.maxSize := by
  refine plan.forall_range (fun first stop => first < stop ∧ stop ≤ layout.count ∧
    0 < layout.span first stop ∧ layout.span first stop ≤ layout.maxSize) ?_ ?_
  · intro first _ fits filled
    exact ⟨lt_of_span_pos filled, Nat.le_refl _, filled, fits⟩
  · intro first limit split _ cut filled
    have small : layout.span first split ≤ layout.span first limit :=
      span_le_span (Nat.le_refl first) cut.split_le
    exact ⟨cut.current_lt, Nat.le_of_lt cut.split_lt, filled, Int.le_trans small cut.fits⟩

theorem Plan.inside {current : Nat} {ranges : List (Nat × Nat)}
    (plan : layout.Plan current ranges) :
    ∀ range ∈ ranges, range.1 ≤ layout.count ∧ range.2 ≤ layout.count := by
  intro range member
  obtain ⟨ordered, inside, -, -⟩ := plan.range_bounds range member
  exact ⟨Nat.le_trans (Nat.le_of_lt ordered) inside, inside⟩

end Segmentation.Split.Layout
