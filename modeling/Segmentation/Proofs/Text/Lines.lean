import Segmentation.Text.LineTable

/-!
# Where lines stand

`lineOffset` says where each line of a text starts. Line tables store these offsets, the cutting of
chunks measures its parts by them, and every character that ends no line stands between two of them.
-/

namespace Segmentation

namespace Text

/-! ## Offsets of lines -/

/-- Where the line with the given index starts when lines are joined by newlines. The index after
the last line stands for a line that would follow. -/
def lineOffset : List Text → Nat → Nat
  | _, 0 => 0
  | [], _ + 1 => 0
  | line :: others, index + 1 => line.length + 1 + lineOffset others index

@[simp] theorem lineOffset_zero (lines : List Text) : lineOffset lines 0 = 0 := by
  cases lines <;> rfl

@[simp] theorem lineOffset_cons_succ (line : Text) (others : List Text) (index : Nat) :
    lineOffset (line :: others) (index + 1) = line.length + 1 + lineOffset others index := rfl

/-- Each line takes its characters and one newline. -/
theorem lineOffset_succ (lines : List Text) (index : Nat) (inside : index < lines.length) :
    lineOffset lines (index + 1) = lineOffset lines index + lines[index].length + 1 := by
  induction lines generalizing index with
  | nil => simp at inside
  | cons line others ih =>
      cases index with
      | zero => simp
      | succ index =>
          have step := ih index (by simpa using inside)
          simp only [lineOffset_cons_succ, List.getElem_cons_succ, step]
          omega

theorem lineOffset_lt {lines : List Text} {left right : Nat} (before : left < right)
    (inside : right ≤ lines.length) : lineOffset lines left < lineOffset lines right := by
  induction right with
  | zero => omega
  | succ right ih =>
      have step := lineOffset_succ lines right (by omega)
      rcases Nat.lt_or_ge left right with earlier | notEarlier
      · have := ih earlier (by omega)
        omega
      · have same : left = right := by omega
        subst same
        omega

theorem lineOffset_le (lines : List Text) {left right : Nat} (before : left ≤ right) :
    lineOffset lines left ≤ lineOffset lines right := by
  induction lines generalizing left right with
  | nil => cases left <;> cases right <;> simp [lineOffset]
  | cons line others ih =>
      cases left with
      | zero => simp
      | succ left =>
          cases right with
          | zero => omega
          | succ right =>
              have := ih (Nat.le_of_succ_le_succ before)
              simp only [lineOffset_cons_succ]
              omega

theorem lineOffset_le_iff {lines : List Text} {left right : Nat} (inside : left ≤ lines.length) :
    lineOffset lines left ≤ lineOffset lines right ↔ left ≤ right := by
  refine ⟨fun before => ?_, lineOffset_le lines⟩
  rcases Nat.lt_or_ge right left with behind | ordered
  · have := lineOffset_lt behind inside
    omega
  · exact ordered

theorem lineOffset_length {lines : List Text} (nonempty : lines ≠ []) :
    lineOffset lines lines.length = (joinLines lines).length + 1 := by
  induction lines with
  | nil => exact absurd rfl nonempty
  | cons line others ih =>
      cases others with
      | nil => simp [joinLines]
      | cons next others =>
          have rest := ih (by simp)
          simp only [List.length_cons, lineOffset_cons_succ, joinLines,
            List.length_append] at rest ⊢
          omega

theorem lineOffset_lines (text : Text) :
    lineOffset text.lines text.lines.length = text.length + 1 := by
  rw [lineOffset_length (lines_ne_nil text), joinLines_lines]

/-- A character that ends no line belongs to one of the lines. -/
theorem exists_line_of_ne_newline {lines : List Text} {position : Nat} {character : Char}
    (found : (joinLines lines)[position]? = some character) (inLine : character ≠ '\n') :
    ∃ index < lines.length, lineOffset lines index ≤ position ∧
      position + 1 < lineOffset lines (index + 1) := by
  induction lines generalizing position with
  | nil => simp [joinLines] at found
  | cons line others ih =>
      cases others with
      | nil =>
          simp only [joinLines] at found
          have := (List.getElem?_eq_some_iff.1 found).1
          exact ⟨0, by simp, by simp, by simpa using this⟩
      | cons next others =>
          simp only [joinLines] at found
          rcases Nat.lt_or_ge position line.length with first | later
          · exact ⟨0, by simp, by simp, by simp; omega⟩
          · rw [List.getElem?_append_right later] at found
            cases distance : position - line.length with
            | zero => simp [distance, inLine.symm] at found
            | succ distance' =>
                rw [distance, List.getElem?_cons_succ] at found
                obtain ⟨index, inside, low, high⟩ := ih found
                refine ⟨index + 1, by simpa using inside, ?_, ?_⟩
                · rw [lineOffset_cons_succ]; omega
                · rw [lineOffset_cons_succ]; omega

end Text

/-! ## Line tables -/

theorem getElem?_lineStartsFrom (first : Nat) (lines : List Text) (index : Nat)
    (inside : index ≤ lines.length) :
    (lineStartsFrom first lines)[index]? = some (first + Text.lineOffset lines index) := by
  induction lines generalizing first index with
  | nil =>
      have : index = 0 := by simpa using inside
      simp [lineStartsFrom, this]
  | cons line others ih =>
      cases index with
      | zero => simp [lineStartsFrom]
      | succ index =>
          rw [lineStartsFrom, List.getElem?_cons_succ, ih _ _ (by simpa using inside),
            Text.lineOffset_cons_succ]
          congr 1
          omega

theorem getElem?_lineStarts (lines : List Text) (index : Nat) (inside : index ≤ lines.length) :
    (lineStarts lines).toArray[index]? = some (Text.lineOffset lines index) := by
  simp [lineStarts, getElem?_lineStartsFrom 0 lines index inside]

namespace LineTable

/-- Halving keeps an entry that is at most the offset at the low end, and above the high end one
that is greater. -/
theorem search_bounds (starts : Array Nat) (start : Nat → Nat)
    (agree : ∀ index, index < starts.size → starts[index]? = some (start index))
    (offset low high : Nat) (inside : high < starts.size) (ordered : low ≤ high)
    (lowest : start low ≤ offset) :
    low ≤ search starts offset low high inside ∧ search starts offset low high inside ≤ high ∧
      start (search starts offset low high inside) ≤ offset ∧
      (search starts offset low high inside < high →
        offset < start (search starts offset low high inside + 1)) := by
  have entry (index : Nat) (below : index < starts.size) : starts[index] = start index := by
    have := agree index below
    rwa [Array.getElem?_eq_getElem below, Option.some.injEq] at this
  fun_induction search starts offset low high inside with
  | case1 low high inside apart middle below fits ih =>
      rw [entry middle below] at fits
      obtain ⟨above, upper, least, next⟩ := ih (by omega) fits
      exact ⟨by omega, upper, least, next⟩
  | case2 low high inside apart middle below exceeds ih =>
      rw [entry middle below] at exceeds
      obtain ⟨above, upper, least, next⟩ := ih (by omega) lowest
      refine ⟨above, by omega, least, fun _ => ?_⟩
      rcases Nat.lt_or_ge (search starts offset low (middle - 1) (by omega)) (middle - 1) with
        inner | last
      · exact next inner
      · have reached : search starts offset low (middle - 1) (by omega) + 1 = middle := by omega
        rw [reached]
        omega
  | case3 low high inside closed => exact ⟨by omega, by omega, lowest, by omega⟩

/-- The line of an offset is a line of the text, starts at or before the offset, and the line after
it starts behind the offset. -/
theorem lineOf_bounds {text : Text} {offset : Nat} (inside : offset ≤ text.length) :
    (ofText text).lineOf offset < text.lines.length ∧
      Text.lineOffset text.lines ((ofText text).lineOf offset) ≤ offset ∧
      offset < Text.lineOffset text.lines ((ofText text).lineOf offset + 1) := by
  have nonempty : 0 < text.lines.length := Text.length_lines_pos text
  have size : (ofText text).starts.size = text.lines.length + 1 := (ofText text).size_starts
  obtain ⟨-, upper, least, next⟩ :=
    search_bounds (ofText text).starts (Text.lineOffset text.lines)
      (fun index below => getElem?_lineStarts text.lines index (by omega)) offset 0
      (text.lines.length - 1) (by omega) (by omega) (by simp)
  refine ⟨?_, least, ?_⟩
  · exact Nat.lt_of_le_of_lt upper (by omega)
  · rcases Nat.lt_or_ge ((ofText text).lineOf offset) (text.lines.length - 1) with inner | last
    · exact next inner
    · have final : (ofText text).lineOf offset + 1 = text.lines.length := by
        have : (ofText text).lineOf offset ≤ text.lines.length - 1 := upper
        omega
      rw [final, Text.lineOffset_lines]
      omega

theorem lineEnd_eq {text : Text} {index : Nat} (inside : index < text.lines.length) :
    (ofText text).lineEnd index + 1 = Text.lineOffset text.lines (index + 1) := by
  have start := getElem?_lineStarts text.lines index (by omega)
  have step := Text.lineOffset_succ text.lines index inside
  simp only [lineEnd, line, ofText, Array.getD_eq_getD_getElem?, List.getD_eq_getElem?_getD, start,
    List.getElem?_eq_getElem inside, Option.getD_some]
  omega

end LineTable

end Segmentation
