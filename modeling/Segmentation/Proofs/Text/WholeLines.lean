import Mathlib.Data.List.GetD
import Segmentation.Proofs.Text.Lines

/-!
# Whole lines

A text made of whole lines is empty or ends with a newline. What stands behind whole lines has lines
of its own, counted on from theirs. The line of an offset is the number of newlines before it, and
an offset behind whole lines is the start of a line.
-/

namespace Segmentation

namespace Text

variable {text before rest : Text}

/-- A text each line of which ends with its newline. -/
def WholeLines (text : Text) : Prop :=
  text = [] ∨ ∃ front, text = front ++ ['\n']

theorem WholeLines.append (whole : before.WholeLines) (whole' : rest.WholeLines) :
    (before ++ rest).WholeLines := by
  rcases whole' with rfl | ⟨front, rfl⟩
  · rwa [List.append_nil]
  · exact .inr ⟨before ++ front, (List.append_assoc before front _).symm⟩

/-! ## Lines of a text in two parts -/

theorem newlines_append (left right : Text) :
    newlines (left ++ right) = newlines left + newlines right :=
  List.count_append

theorem newlines_eq_zero_iff : newlines text = 0 ↔ '\n' ∉ text :=
  List.count_eq_zero

/-- A newline ends the line before it and nothing else. -/
theorem lines_append_newline (front rest : Text) :
    lines (front ++ '\n' :: rest) = lines front ++ lines rest := by
  induction front with
  | nil => simp [lines]
  | cons character others ih =>
      rw [List.cons_append, lines, lines, ih]
      split
      · rw [List.cons_append]
      · cases equal : lines others with
        | nil => exact absurd equal (lines_ne_nil others)
        | cons line later => rw [List.cons_append, List.cons_append]

theorem WholeLines.lines_append (whole : before.WholeLines) (rest : Text) :
    lines (before ++ rest) = (lines before).dropLast ++ lines rest := by
  rcases whole with rfl | ⟨front, rfl⟩
  · rfl
  · rw [List.append_assoc, List.singleton_append, lines_append_newline, lines_append_newline,
      show lines [] = [[]] from rfl, List.dropLast_concat]

theorem head?_lines (text : Text) : (lines text).head? = some (text.takeWhile (· != '\n')) := by
  induction text with
  | nil => rfl
  | cons character others ih =>
      rw [lines]
      by_cases newline : character = '\n'
      · rw [if_pos newline, newline]
        rfl
      · rw [if_neg newline]
        cases equal : lines others with
        | nil => exact absurd equal (lines_ne_nil others)
        | cons line later =>
            rw [equal, List.head?_cons, Option.some.injEq] at ih
            rw [List.takeWhile_cons_of_pos (by simpa using newline), ← ih]
            rfl

theorem length_dropLast_lines (text : Text) : (lines text).dropLast.length = newlines text := by
  rw [List.length_dropLast, length_lines, Nat.add_sub_cancel]

/-- Behind whole lines, lines are counted on. -/
theorem WholeLines.getD_lines_add (whole : before.WholeLines) (rest : Text) (index : Nat) :
    (lines (before ++ rest)).getD (newlines before + index) [] = (lines rest).getD index [] := by
  rw [whole.lines_append, ← length_dropLast_lines, List.getD_eq_getElem?_getD,
    List.getElem?_append_right (Nat.le_add_right _ _), Nat.add_sub_cancel_left,
    ← List.getD_eq_getElem?_getD]

theorem WholeLines.getD_lines (whole : before.WholeLines) (rest : Text) :
    (lines (before ++ rest)).getD (newlines before) [] = rest.takeWhile (· != '\n') := by
  have first : (lines rest).getD 0 [] = rest.takeWhile (· != '\n') := by
    rw [List.getD_eq_getElem?_getD, ← List.head?_eq_getElem?, head?_lines, Option.getD_some]
  exact (whole.getD_lines_add rest 0).trans first

theorem not_mem_of_mem_lines {line : Text} (member : line ∈ lines text) : '\n' ∉ line := by
  induction text generalizing line with
  | nil =>
      obtain rfl := List.mem_singleton.1 member
      exact List.not_mem_nil
  | cons character others ih =>
      rw [lines] at member
      split at member
      · rcases List.mem_cons.1 member with rfl | later
        · exact List.not_mem_nil
        · exact ih later
      · next inLine =>
          cases equal : lines others with
          | nil => exact absurd equal (lines_ne_nil others)
          | cons first later =>
              rw [equal] at member ih
              rcases List.mem_cons.1 member with rfl | inside
              · rw [List.mem_cons, not_or]
                exact ⟨Ne.symm inLine, ih List.mem_cons_self⟩
              · exact ih (List.mem_cons_of_mem first inside)

/-- The lines behind whole lines are those of what stands there. -/
theorem WholeLines.drop_lines_add (whole : before.WholeLines) (rest : Text) (index : Nat) :
    (lines (before ++ rest)).drop (newlines before + index) = (lines rest).drop index := by
  rw [whole.lines_append, ← length_dropLast_lines, List.drop_length_add_append]

theorem WholeLines.drop_lines (whole : before.WholeLines) (rest : Text) :
    (lines (before ++ rest)).drop (newlines before) = lines rest :=
  whole.drop_lines_add rest 0

theorem newlines_take_append (before rest : Text) (offset : Nat) :
    newlines ((before ++ rest).take (before.length + offset)) =
      newlines before + newlines (rest.take offset) := by
  rw [List.take_length_add_append, newlines_append]

/-! ## Texts made of lines -/

/-- The text of lines each of which is followed by a newline. -/
def unlines (lines : List Text) : Text :=
  lines.flatMap (· ++ ['\n'])

theorem unlines_cons (line : Text) (others : List Text) :
    unlines (line :: others) = line ++ '\n' :: unlines others := by
  rw [unlines, List.flatMap_cons, List.append_assoc, List.singleton_append, ← unlines]

theorem unlines_append (left right : List Text) :
    unlines (left ++ right) = unlines left ++ unlines right :=
  List.flatMap_append

theorem wholeLines_unlines (lines : List Text) : WholeLines (unlines lines) := by
  induction lines with
  | nil => exact .inl rfl
  | cons line others ih =>
      rw [unlines, List.flatMap_cons, ← unlines]
      exact WholeLines.append (.inr ⟨line, rfl⟩) ih

theorem lines_of_not_mem {line : Text} (inLine : '\n' ∉ line) : lines line = [line] := by
  have single := length_lines line
  rw [newlines_eq_zero_iff.2 inLine, Nat.zero_add] at single
  obtain ⟨only, equal⟩ := List.length_eq_one_iff.1 single
  have whole := joinLines_lines line
  rw [equal] at whole ⊢
  rw [← whole]
  rfl

theorem lines_unlines_append {lineList : List Text} (inLines : ∀ line ∈ lineList, '\n' ∉ line)
    (rest : Text) : lines (unlines lineList ++ rest) = lineList ++ lines rest := by
  induction lineList with
  | nil => rfl
  | cons line others ih =>
      rw [List.forall_mem_cons] at inLines
      rw [unlines_cons, List.append_assoc, List.cons_append, lines_append_newline, ih inLines.2,
        lines_of_not_mem inLines.1, List.singleton_append, List.cons_append]

theorem newlines_unlines {lineList : List Text} (inLines : ∀ line ∈ lineList, '\n' ∉ line) :
    newlines (unlines lineList) = lineList.length := by
  have count := length_lines (unlines lineList ++ [])
  rw [lines_unlines_append inLines, List.append_nil, show lines [] = [[]] from rfl,
    List.length_append, List.length_singleton] at count
  omega

theorem unlines_eq_joinLines {lineList : List Text} (notEmpty : lineList ≠ []) :
    unlines lineList = joinLines lineList ++ ['\n'] := by
  induction lineList with
  | nil => exact absurd rfl notEmpty
  | cons line others ih =>
      cases others with
      | nil => simp [unlines, joinLines]
      | cons next others =>
          rw [unlines_cons, ih (List.cons_ne_nil _ _), joinLines, List.append_assoc,
            List.cons_append]

theorem unlines_lines (text : Text) : unlines (lines text) = text ++ ['\n'] := by
  rw [unlines_eq_joinLines (lines_ne_nil text), joinLines_lines]

/-- Whole lines are the text of all their lines but the empty one behind them. -/
theorem WholeLines.unlines_dropLast (whole : text.WholeLines) :
    unlines (lines text).dropLast = text := by
  rcases whole with rfl | ⟨front, rfl⟩
  · rfl
  · rw [lines_append_newline, show lines [] = [[]] from rfl, List.dropLast_concat, unlines_lines]

theorem bne_newline (inLine : '\n' ∉ text) : ∀ character ∈ text, (character != '\n') = true := by
  intro character member
  rw [bne_iff_ne]
  rintro rfl
  exact inLine member

/-- What stands before the first newline is the same however the text is written. -/
theorem append_newline_inj {left left' right right' : Text} (inLine : '\n' ∉ left)
    (inLine' : '\n' ∉ left') (same : left ++ '\n' :: right = left' ++ '\n' :: right') :
    left = left' ∧ right = right' := by
  have equal : left = left' := by
    have first := congrArg (·.takeWhile (· != '\n')) same
    have take {line : Text} (others : Text) (inLine : '\n' ∉ line) :
        (line ++ '\n' :: others).takeWhile (· != '\n') = line := by
      rw [List.takeWhile_append_of_pos (bne_newline inLine),
        List.takeWhile_cons_of_neg (by simp), List.append_nil]
    simp only [take right inLine, take right' inLine'] at first
    exact first
  subst equal
  simpa using same

/-! ## Characters and their lines -/

/-- A character of a line stands in the text behind the start of the line. -/
theorem getElem?_joinLines {lines : List Text} {index position : Nat}
    (inside : position < (lines.getD index []).length) :
    (joinLines lines)[lineOffset lines index + position]? = (lines.getD index [])[position]? := by
  induction lines generalizing index with
  | nil => exact absurd inside (by simp)
  | cons line others ih =>
      have first : (joinLines (line :: others)).take line.length = line := by
        cases others <;> simp [joinLines]
      cases index with
      | zero =>
          rw [List.getD_cons_zero] at inside ⊢
          rw [lineOffset_zero, Nat.zero_add]
          rw [← List.getElem?_take_of_lt inside, first]
      | succ index =>
          rw [List.getD_cons_succ] at inside ⊢
          cases others with
          | nil => exact absurd inside (by simp)
          | cons next others =>
              rw [joinLines, lineOffset_cons_succ, List.getElem?_append_right (by omega),
                show line.length + 1 + lineOffset (next :: others) index + position - line.length =
                  lineOffset (next :: others) index + position + 1 by omega,
                List.getElem?_cons_succ]
              exact ih inside

theorem getElem?_lines {index position : Nat}
    (inside : position < (text.lines.getD index []).length) :
    text[lineOffset text.lines index + position]? = (text.lines.getD index [])[position]? := by
  have found := getElem?_joinLines inside
  rwa [joinLines_lines] at found

/-- In front of the end of a line that holds something stands no newline. -/
theorem getElem?_before_lineEnd {index : Nat} (filled : text.lines.getD index [] ≠ []) :
    text[lineOffset text.lines (index + 1) - 2]? ≠ some '\n' := by
  have within : index < text.lines.length := by
    rcases Nat.lt_or_ge index text.lines.length with within | outside
    · exact within
    · exact absurd (List.getD_eq_default _ _ outside) filled
  have length := List.length_pos_iff.2 filled
  have step := lineOffset_succ text.lines index within
  rw [← List.getD_eq_getElem _ [] within] at step
  have found := getElem?_lines (Nat.sub_lt length Nat.one_pos)
  rw [show lineOffset text.lines index + ((text.lines.getD index []).length - 1) =
    lineOffset text.lines (index + 1) - 2 by omega] at found
  rw [found]
  intro newline
  have member := List.mem_of_getElem? newline
  rw [List.getD_eq_getElem _ _ within] at member
  exact not_mem_of_mem_lines (List.getElem_mem within) member

/-- The newlines before an offset count the lines that end before it. -/
theorem lineOffset_newlines {offset : Nat} (inside : offset ≤ text.length) :
    lineOffset text.lines (newlines (text.take offset)) ≤ offset ∧
      offset < lineOffset text.lines (newlines (text.take offset) + 1) := by
  induction text generalizing offset with
  | nil =>
      obtain rfl := Nat.le_zero.1 inside
      exact ⟨Nat.le_refl 0, Nat.zero_lt_one⟩
  | cons character others ih =>
      cases offset with
      | zero =>
          refine ⟨Nat.le_of_eq (lineOffset_zero _), ?_⟩
          obtain ⟨line, later, equal⟩ := List.exists_cons_of_ne_nil
            (lines_ne_nil (character :: others))
          rw [equal, List.take_zero, show newlines [] = 0 from rfl, lineOffset_cons_succ]
          omega
      | succ offset =>
          obtain ⟨low, high⟩ := ih (Nat.le_of_succ_le_succ inside)
          rw [List.take_succ_cons, lines]
          by_cases newline : character = '\n'
          · rw [if_pos newline, newline, newlines, List.count_cons_self, lineOffset_cons_succ,
              lineOffset_cons_succ, List.length_nil]
            rw [newlines] at low high
            omega
          · rw [if_neg newline, newlines, List.count_cons_of_ne (Ne.symm (Ne.symm newline)),
              ← newlines]
            cases equal : lines others with
            | nil => exact absurd equal (lines_ne_nil others)
            | cons line later =>
                rw [equal] at low high
                cases count : newlines (others.take offset) with
                | zero =>
                    rw [count, lineOffset_cons_succ] at high
                    rw [lineOffset_zero, lineOffset_cons_succ, List.length_cons]
                    omega
                | succ count' =>
                    rw [count, lineOffset_cons_succ] at low high
                    rw [lineOffset_cons_succ, lineOffset_cons_succ, List.length_cons]
                    omega

theorem line_unique {lines : List Text} {offset index index' : Nat}
    (low : lineOffset lines index ≤ offset) (high : offset < lineOffset lines (index + 1))
    (low' : lineOffset lines index' ≤ offset) (high' : offset < lineOffset lines (index' + 1)) :
    index = index' := by
  rcases Nat.lt_trichotomy index index' with before | same | behind
  · have := lineOffset_le lines (show index + 1 ≤ index' from before)
    omega
  · exact same
  · have := lineOffset_le lines (show index' + 1 ≤ index from behind)
    omega

theorem newlines_take_eq {offset index : Nat} (inside : offset ≤ text.length)
    (low : lineOffset text.lines index ≤ offset)
    (high : offset < lineOffset text.lines (index + 1)) :
    newlines (text.take offset) = index := by
  obtain ⟨low', high'⟩ := lineOffset_newlines inside
  exact line_unique low' high' low high

theorem newlines_take_le {left right : Nat} (ordered : left ≤ right) :
    newlines (text.take left) ≤ newlines (text.take right) :=
  (List.take_sublist_take_left ordered).count_le _

theorem newlines_take_lt (offset : Nat) : newlines (text.take offset) < text.lines.length := by
  rw [length_lines]
  exact Nat.lt_succ_of_le ((List.take_sublist offset text).count_le _)

theorem line_ne_nil {position : Nat} {character : Char} (found : text[position]? = some character)
    (inLine : character ≠ '\n') :
    text.lines.getD (newlines (text.take position)) [] ≠ [] := by
  have inside : position ≤ text.length := Nat.le_of_lt (List.getElem?_eq_some_iff.1 found).1
  obtain ⟨low, high⟩ := lineOffset_newlines inside
  rw [← joinLines_lines text] at found
  obtain ⟨index, within, low', high'⟩ := exists_line_of_ne_newline found inLine
  obtain rfl := line_unique low high low' (by omega)
  have step := lineOffset_succ text.lines _ within
  rw [List.getD_eq_getElem _ _ within]
  refine List.ne_nil_of_length_pos ?_
  omega

/-- An offset behind whole lines is the start of a line. -/
theorem WholeLines.lineOffset_eq {offset : Nat} (whole : WholeLines (text.take offset))
    (inside : offset ≤ text.length) :
    lineOffset text.lines (newlines (text.take offset)) = offset := by
  obtain ⟨low, high⟩ := lineOffset_newlines inside
  rcases Nat.eq_or_lt_of_le low with start | behind
  · exact start
  rcases whole with atStart | ⟨front, newline⟩
  · have := congrArg List.length atStart
    rw [List.length_take, List.length_nil] at this
    omega
  · have length := congrArg List.length newline
    rw [List.length_take, Nat.min_eq_left inside, List.length_append, List.length_singleton]
      at length
    have last : text[front.length]? = some '\n' := by
      rw [← List.getElem?_take_of_lt (show front.length < offset by omega), newline]
      simp
    generalize newlines (text.take offset) = index at low high behind
    have within : index < text.lines.length := by
      rcases Nat.lt_or_ge index text.lines.length with within | outside
      · exact within
      · have := lineOffset_le text.lines outside
        rw [lineOffset_lines] at this
        omega
    have step := lineOffset_succ text.lines index within
    have same : text.lines.getD index [] = text.lines[index] := List.getD_eq_getElem _ _ within
    have inLine : front.length - lineOffset text.lines index <
        (text.lines.getD index []).length := by
      rw [same]
      omega
    have found := getElem?_lines inLine
    rw [show lineOffset text.lines index + (front.length - lineOffset text.lines index) =
      front.length by omega, last, same] at found
    exact absurd (List.mem_of_getElem? found.symm)
      (not_mem_of_mem_lines (List.getElem_mem within))

/-- Whole lines reach up to the start of the line that their newlines count. -/
theorem WholeLines.lineOffset_append (whole : WholeLines before) (rest : Text) :
    lineOffset (before ++ rest).lines (newlines before) = before.length := by
  have taken : (before ++ rest).take before.length = before := List.take_left
  have inside : before.length ≤ (before ++ rest).length := (List.prefix_append _ _).length_le
  rw [← taken] at whole
  have start := whole.lineOffset_eq inside
  rwa [taken] at start

theorem lineOffset_append (front others : List Text) (index : Nat) :
    lineOffset (front ++ others) (front.length + index) =
      lineOffset front front.length + lineOffset others index := by
  induction front with
  | nil => rw [List.nil_append, List.length_nil, Nat.zero_add, lineOffset_zero, Nat.zero_add]
  | cons line later ih =>
      rw [List.cons_append, List.length_cons, Nat.add_right_comm, lineOffset_cons_succ, ih,
        lineOffset_cons_succ]
      simp only [Nat.add_assoc]

/-- Lines behind whole lines start as far behind them as they do in their own text. -/
theorem WholeLines.lineOffset_add (whole : WholeLines before) (rest : Text) (index : Nat) :
    lineOffset (before ++ rest).lines (newlines before + index) =
      before.length + lineOffset rest.lines index := by
  have start := whole.lineOffset_append rest
  rw [whole.lines_append, ← length_dropLast_lines, ← Nat.add_zero (List.length _),
    Text.lineOffset_append, lineOffset_zero, Nat.add_zero] at start
  rw [whole.lines_append, ← length_dropLast_lines, Text.lineOffset_append, start]

end Text

/-! ## Line tables -/

theorem LineTable.lineOf_eq_newlines {text : Text} {offset : Nat} (inside : offset ≤ text.length) :
    (LineTable.ofText text).lineOf offset = Text.newlines (text.take offset) := by
  obtain ⟨-, low, high⟩ := LineTable.lineOf_bounds inside
  obtain ⟨low', high'⟩ := Text.lineOffset_newlines inside
  exact Text.line_unique low high low' high'

end Segmentation
