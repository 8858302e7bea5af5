import Segmentation.Proofs.Chunk
import Segmentation.Window

/-!
# Windows of a chunk

Windows that start no further apart than they are long lie inside their chunk, follow one another
and leave nothing out.
-/

namespace Segmentation

namespace Window

variable {maxSize start stop : Int} {step : Nat} {forward : 0 < step}

/-- Every window lies inside, holds something and is no larger than it may be. -/
theorem ranges_bounds (positive : 0 < maxSize) (ordered : start < stop)
    (short : (step : Int) ≤ maxSize) :
    ∀ window ∈ ranges maxSize step forward start stop, start ≤ window.1 ∧ window.1 < window.2 ∧
      window.2 ≤ stop ∧ window.2 - window.1 ≤ maxSize := by
  fun_induction ranges maxSize step forward start stop with
  | case1 start last =>
      intro window member
      rw [List.mem_singleton] at member
      subst member
      exact ⟨Int.le_refl _, ordered, Int.le_refl _, by omega⟩
  | case2 start more ih =>
      intro window member
      rcases List.mem_cons.1 member with same | later
      · subst same
        exact ⟨Int.le_refl _, by omega, by omega, by omega⟩
      · obtain ⟨low, filled, high, size⟩ := ih (by omega) window later
        exact ⟨by omega, filled, high, size⟩

theorem exists_range (short : (step : Int) ≤ maxSize) {position : Int} (low : start ≤ position)
    (high : position < stop) :
    ∃ window ∈ ranges maxSize step forward start stop,
      window.1 ≤ position ∧ position < window.2 := by
  fun_induction ranges maxSize step forward start stop with
  | case1 start last => exact ⟨(start, stop), by simp, low, high⟩
  | case2 start more ih =>
      by_cases inFirst : position < start + maxSize
      · exact ⟨(start, start + maxSize), by simp, low, inFirst⟩
      · obtain ⟨window, member, found⟩ := ih (by omega)
        exact ⟨window, List.mem_cons_of_mem _ member, found⟩

theorem start_le_of_mem_ranges :
    ∀ window ∈ ranges maxSize step forward start stop, start ≤ window.1 := by
  fun_induction ranges maxSize step forward start stop with
  | case1 start last => simp
  | case2 start more ih =>
      intro window member
      rcases List.mem_cons.1 member with same | later
      · subst same
        exact Int.le_refl _
      · have := ih window later
        omega

theorem ranges_starts_increase :
    (ranges maxSize step forward start stop).Pairwise fun left right => left.1 < right.1 := by
  fun_induction ranges maxSize step forward start stop with
  | case1 start last => simp
  | case2 start more ih =>
      refine List.pairwise_cons.2 ⟨fun window member => ?_, ih⟩
      have := start_le_of_mem_ranges window member
      have : (0 : Int) < step := by exact_mod_cast forward
      simp only
      omega

theorem ranges_add (distance : Int) :
    ranges maxSize step forward (start + distance) (stop + distance) =
      (ranges maxSize step forward start stop).map fun window =>
        (window.1 + distance, window.2 + distance) := by
  fun_induction ranges maxSize step forward start stop with
  | case1 start last =>
      rw [ranges, if_pos (by omega)]
      rfl
  | case2 start more ih =>
      rw [ranges, if_neg (by omega), List.map_cons, ← ih, Int.add_right_comm start maxSize,
        Int.add_right_comm start step]

theorem ranges_ne_nil : ranges maxSize step forward start stop ≠ [] := by
  rw [ranges]
  split <;> simp

theorem step_eq (maxSize overlap : Int) :
    Window.step maxSize overlap = (max 1 (maxSize - overlap)).toNat := rfl

theorem step_le {overlap : Int} (positive : 0 < maxSize) (nonneg : 0 ≤ overlap) :
    (Window.step maxSize overlap : Int) ≤ maxSize := by
  simp only [Window.step]
  omega

end Window

namespace Chunk

theorem windows_ranges (chunk : Chunk) (source : Text) {maxSize : Int} (overlap : Int)
    (nameParts : Bool) (large : maxSize < chunk.size) :
    (chunk.windows source maxSize overlap nameParts).map range =
      Window.ranges maxSize (Window.step maxSize overlap) (Window.step_pos maxSize overlap)
        chunk.startOffset chunk.endOffset := by
  rw [windows, if_neg (by omega)]
  refine (map_mapIdx id ?_).trans (List.map_id _)
  intro number window
  rfl

/-- A chunk that is too large is cut into its windows. -/
theorem cutInto_windows {chunk : Chunk} {source : Text} {maxSize overlap : Int} (nameParts : Bool)
    (slice : chunk.content = source.slice chunk.startOffset chunk.endOffset)
    (nonempty : chunk.startOffset < chunk.endOffset) (positive : 0 < maxSize)
    (nonneg : 0 ≤ overlap) (large : maxSize < chunk.size) :
    chunk.CutInto source maxSize (chunk.windows source maxSize overlap nameParts) := by
  have short := Window.step_le positive nonneg
  have content : ∀ piece ∈ chunk.windows source maxSize overlap nameParts,
      piece.content = source.slice piece.startOffset piece.endOffset := by
    intro piece member
    rw [windows, if_neg (by omega)] at member
    obtain ⟨number, inside, rfl⟩ := List.mem_mapIdx.1 member
    rfl
  apply cutInto_of_ranges (windows_ranges chunk source overlap nameParts large) content
  · exact Window.ranges_ne_nil
  · exact Window.ranges_bounds positive nonempty short
  · intro position character found _
    have inside : position < chunk.size := (List.getElem?_eq_some_iff.1 found).1
    have within := size_le_of_content_eq slice (Int.le_of_lt nonempty)
    exact Window.exists_range short (by omega) (by omega)
  · exact Window.ranges_starts_increase

end Chunk

end Segmentation
