import Segmentation.Proofs.Chunk
import Segmentation.Proofs.Text.WholeLines

/-!
# Runs of lines

A run of lines of a text, joined by newlines, is a slice of the text: it starts where its first line
does and stops before the newline behind its last one.
-/

namespace Segmentation.Text

variable {text : Text} {left right lineList : List Text}

/-! ## Joined lines -/

theorem joinLines_append (notEmpty : left ≠ []) (notEmpty' : right ≠ []) :
    joinLines (left ++ right) = joinLines left ++ '\n' :: joinLines right := by
  obtain ⟨line, others, rfl⟩ := List.exists_cons_of_ne_nil notEmpty'
  induction left with
  | nil => exact absurd rfl notEmpty
  | cons first later ih =>
      cases later with
      | nil => rfl
      | cons second later =>
          rw [List.cons_append, List.cons_append, joinLines, ← List.cons_append,
            ih (List.cons_ne_nil second later), joinLines, List.append_assoc, List.cons_append]

theorem joinLines_concat (front : List Text) (last : Text) :
    joinLines (front ++ [last]) = unlines front ++ last := by
  cases front with
  | nil => rfl
  | cons line others =>
      rw [joinLines_append (List.cons_ne_nil line others) (List.cons_ne_nil last []),
        unlines_eq_joinLines (List.cons_ne_nil line others), List.append_assoc]
      rfl

/-- A text consists of whole lines and a last one. -/
theorem exists_unlines_append (text : Text) : ∃ front last, text = unlines front ++ last ∧
    text.lines = front ++ [last] ∧ (∀ line ∈ front, '\n' ∉ line) ∧ '\n' ∉ last := by
  have split := List.dropLast_concat_getLast (lines_ne_nil text)
  have inLines : ∀ line ∈ text.lines.dropLast ++ [text.lines.getLast (lines_ne_nil text)],
      '\n' ∉ line := by
    rw [split]
    exact fun line member => not_mem_of_mem_lines member
  rw [List.forall_mem_append, List.forall_mem_singleton] at inLines
  refine ⟨_, _, ?_, split.symm, inLines⟩
  rw [← joinLines_concat, split, joinLines_lines]

theorem lines_joinLines (notEmpty : lineList ≠ []) (inLines : ∀ line ∈ lineList, '\n' ∉ line) :
    lines (joinLines lineList) = lineList := by
  induction lineList with
  | nil => exact absurd rfl notEmpty
  | cons line others ih =>
      rw [List.forall_mem_cons] at inLines
      cases others with
      | nil => exact lines_of_not_mem inLines.1
      | cons next others =>
          rw [joinLines, lines_append_newline, lines_of_not_mem inLines.1,
            ih (List.cons_ne_nil next others) inLines.2, List.singleton_append]

/-! ## Slices -/

/-- Lines behind others start as far behind them as they do among themselves. -/
theorem lineOffset_add (lineList : List Text) {first : Nat} (inside : first ≤ lineList.length)
    (count : Nat) : lineOffset lineList (first + count) =
      lineOffset lineList first + lineOffset (lineList.drop first) count := by
  have split (index : Nat) := lineOffset_append (lineList.take first) (lineList.drop first) index
  rw [List.take_append_drop, List.length_take, Nat.min_eq_left inside] at split
  have start := split 0
  rw [Nat.add_zero, lineOffset_zero, Nat.add_zero] at start
  rw [split, start]

theorem drop_joinLines (lineList : List Text) {first : Nat} (inside : first < lineList.length) :
    (joinLines lineList).drop (lineOffset lineList first) = joinLines (lineList.drop first) := by
  induction lineList generalizing first with
  | nil => exact absurd inside (Nat.not_lt_zero first)
  | cons line others ih =>
      cases first with
      | zero => rw [lineOffset_zero, List.drop_zero, List.drop_zero]
      | succ first =>
          cases others with
          | nil => exact absurd inside (by simp)
          | cons next others =>
              rw [joinLines, lineOffset_cons_succ, List.drop_succ_cons,
                ← ih (Nat.lt_of_succ_lt_succ inside), Nat.add_assoc, List.drop_length_add_append,
                Nat.add_comm 1, List.drop_succ_cons]

theorem take_joinLines (lineList : List Text) {stop : Nat} (filled : 0 < stop)
    (inside : stop ≤ lineList.length) :
    (joinLines lineList).take (lineOffset lineList stop - 1) = joinLines (lineList.take stop) := by
  have front : lineList.take stop ≠ [] := by
    rw [Ne, List.take_eq_nil_iff]
    rintro (empty | rfl)
    · omega
    · exact absurd inside (Nat.not_le.2 filled)
  have length := lineOffset_length front
  have same := lineOffset_append (lineList.take stop) (lineList.drop stop) 0
  rw [List.take_append_drop, Nat.add_zero, lineOffset_zero, Nat.add_zero, length,
    List.length_take, Nat.min_eq_left inside] at same
  rw [same, Nat.add_sub_cancel]
  rcases Decidable.em (lineList.drop stop = []) with whole | further
  · rw [List.take_of_length_le (List.drop_eq_nil_iff.1 whole), List.take_length]
  · rw [← List.take_append_drop stop lineList, joinLines_append front further,
      List.take_append_drop, List.take_left]

/-- A run of lines is the slice from the start of its first line to the end of its last one. -/
theorem slice_lineOffset (text : Text) {first stop : Nat} (filled : first < stop)
    (inside : stop ≤ text.lines.length) :
    text.slice (lineOffset text.lines first) (lineOffset text.lines stop - 1 : Nat) =
      joinLines (text.lines.extract first stop) := by
  obtain ⟨count, rfl⟩ := Nat.exists_eq_add_of_le (Nat.le_of_lt filled)
  have within : count ≤ (text.lines.drop first).length := by
    rw [List.length_drop]
    omega
  rw [slice_natCast, lineOffset_add text.lines (show first ≤ text.lines.length by omega) count,
    Nat.add_sub_assoc, Nat.add_sub_cancel_left, List.extract_eq_take_drop, Nat.add_sub_cancel_left,
    ← take_joinLines _ (show 0 < count by omega) within,
    ← drop_joinLines _ (show first < text.lines.length by omega), joinLines_lines]
  have := lineOffset_lt (show 0 < count by omega) within
  omega

theorem clamp_natCast (length bound : Nat) : clamp length bound = min bound length := by
  simp [clamp, show ¬(bound : Int) < 0 by omega]

theorem slice_of_slice {source : Text} {start stop : Int} {first last : Nat} (nonneg : 0 ≤ start)
    (slice : text = source.slice start stop) (inside : last ≤ text.length) :
    source.slice (start + first) (start + last) = text.slice first last := by
  obtain ⟨before, rfl⟩ := Int.eq_ofNat_of_zero_le nonneg
  rw [slice, Text.slice, clamp_natCast, List.length_take, List.length_drop] at inside
  rw [← Int.natCast_add, ← Int.natCast_add, slice_natCast, slice_natCast, slice, Text.slice,
    clamp_natCast, List.drop_take, List.take_take, List.drop_drop, Nat.min_eq_left (by omega),
    Nat.add_sub_add_left]
  rcases Nat.le_total before source.length with within | beyond
  · rw [Nat.min_eq_left within]
  · rw [show last - first = 0 by omega, List.take_zero, List.take_zero]

theorem getElem?_of_slice {source : Text} {start stop : Int} {position : Nat} {character : Char}
    (nonneg : 0 ≤ start) (slice : text = source.slice start stop)
    (found : text[position]? = some character) :
    source[start.toNat + position]? = some character := by
  obtain ⟨before, rfl⟩ := Int.eq_ofNat_of_zero_le nonneg
  rw [slice, Text.slice, clamp_natCast] at found
  have inside := (List.getElem?_eq_some_iff.1 found).1
  rw [List.length_take, List.length_drop] at inside
  rw [List.getElem?_take_of_lt (by omega), List.getElem?_drop, Nat.min_eq_left (by omega)] at found
  rwa [Int.toNat_natCast]

end Segmentation.Text
