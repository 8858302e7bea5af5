import Mathlib.Data.List.DropRight
import Segmentation.Indentation.Block
import Segmentation.Proofs.Text.Trim
import Segmentation.Proofs.Text.WholeLines

/-!
# Pieces between line breaks

A text is cut at its line breaks, of which there are more kinds than the newline. Its entries are
the pieces that hold something, without the blanks around them. Everything about entries follows
from one equation at a break. Every break is a blank, so a text has a single entry exactly when no
break stands between its first and its last character that is not blank.
-/

namespace Segmentation.Indentation

variable {text line gap left right : Text} {character : Char}

/-! ## Entries -/

theorem nonblank?_eq_some (filled : text.trim ≠ []) : nonblank? text = some text.trim := by
  rw [nonblank?, if_neg (by simpa using filled)]

theorem nonblank?_eq_none (nothing : text.trim = []) : nonblank? text = none := by
  rw [nonblank?, nothing]
  rfl

/-- The pieces of a text between its line breaks, trimmed, without the blank ones. -/
def entries (text : Text) : List Text :=
  (Text.lineBreakPieces text).filterMap nonblank?

/-- A break ends the piece before it, also when it makes one break with the newline behind it. -/
theorem filterMap_go_cons (breaks : Text.isLineBreak character = true) (piece rest : Text) :
    (Text.lineBreakPieces.go piece (character :: rest)).filterMap nonblank? =
      (nonblank? piece.reverse).toList ++ entries rest := by
  have cons (pieces : List Text) : (piece.reverse :: pieces).filterMap nonblank? =
      (nonblank? piece.reverse).toList ++ pieces.filterMap nonblank? := by
    rw [List.filterMap_cons]
    cases nonblank? piece.reverse <;> rfl
  by_cases pair : character = '\r' ∧ ∃ others, rest = '\n' :: others
  · obtain ⟨rfl, others, rfl⟩ := pair
    have newline : entries ('\n' :: others) = entries others := by
      rw [entries, Text.lineBreakPieces, Text.lineBreakPieces.go, if_pos (by decide)]
      · rfl
      · rintro _ carriage
        exact absurd carriage (by decide)
    rw [Text.lineBreakPieces.go, newline]
    exact cons _
  · rw [Text.lineBreakPieces.go, if_pos breaks]
    · exact cons _
    · rintro others rfl rfl
      exact pair ⟨rfl, others, rfl⟩

theorem filterMap_go_append (breaks : Text.isLineBreak character = true) (piece left right : Text) :
    (Text.lineBreakPieces.go piece (left ++ character :: right)).filterMap nonblank? =
      (Text.lineBreakPieces.go piece left).filterMap nonblank? ++ entries right := by
  fun_induction Text.lineBreakPieces.go piece left with
  | case1 piece empty =>
      rw [List.isEmpty_iff.1 empty, List.nil_append, filterMap_go_cons breaks]
      rfl
  | case2 piece filled =>
      rw [List.nil_append, filterMap_go_cons breaks, List.filterMap_cons]
      cases nonblank? piece.reverse <;> rfl
  | case3 piece others ih =>
      rw [List.cons_append, List.cons_append, Text.lineBreakPieces.go, List.filterMap_cons, ih,
        List.filterMap_cons]
      cases nonblank? piece.reverse <;> rfl
  | case4 piece first others single breaks' ih =>
      rw [List.cons_append, filterMap_go_cons breaks', entries, Text.lineBreakPieces, ih,
        List.filterMap_cons]
      cases nonblank? piece.reverse <;> rfl
  | case5 piece first others single solid ih =>
      rw [List.cons_append, Text.lineBreakPieces.go, if_neg solid, ih]
      rintro later rfl -
      exact solid (by decide)

/-- The entries around a line break are those in front of it and those behind it. -/
theorem entries_append_break (breaks : Text.isLineBreak character = true) (left right : Text) :
    entries (left ++ character :: right) = entries left ++ entries right :=
  filterMap_go_append breaks [] left right

theorem entries_of_unbroken (unbroken : ∀ character ∈ text, Text.isLineBreak character = false) :
    entries text = (nonblank? text).toList := by
  have whole (piece : Text) : Text.lineBreakPieces.go piece text =
      if (text.reverse ++ piece).isEmpty then [] else [(text.reverse ++ piece).reverse] := by
    induction text generalizing piece with
    | nil => rw [Text.lineBreakPieces.go, List.reverse_nil, List.nil_append]
    | cons character others ih =>
        rw [List.forall_mem_cons] at unbroken
        rw [Text.lineBreakPieces.go, if_neg (by simp [unbroken.1]), ih unbroken.2,
          List.reverse_cons, List.append_assoc, List.singleton_append]
        rintro _ rfl -
        exact absurd unbroken.1 (by decide)
  rw [entries, Text.lineBreakPieces, whole, List.append_nil, List.isEmpty_reverse,
    List.reverse_reverse]
  split
  · next empty => rw [List.isEmpty_iff.1 empty]; rfl
  · rw [List.filterMap_cons]
    cases nonblank? text <;> rfl

/-- What holds of texts without a line break, and of a text with one when it holds of what is behind
the first one, holds of every text. -/
theorem breaks_induction {property : Text → Prop}
    (unbroken : ∀ text : Text, (∀ character ∈ text, Text.isLineBreak character = false) →
      property text)
    (broken : ∀ (left : Text) (character : Char) (right : Text),
      Text.isLineBreak character = true →
      (∀ character ∈ left, Text.isLineBreak character = false) → property right →
      property (left ++ character :: right)) (text : Text) : property text := by
  cases found : text.find? Text.isLineBreak with
  | none =>
      exact unbroken text fun character member => by
        simpa using List.find?_eq_none.1 found character member
  | some character =>
      obtain ⟨breaks, left, right, rfl, solid⟩ := List.find?_eq_some_iff_append.1 found
      exact broken left character right breaks (by simpa using solid)
        (breaks_induction unbroken broken right)
termination_by text.length
decreasing_by
  subst_vars
  simp only [List.length_append, List.length_cons]
  omega

/-! ## Blanks around entries -/

theorem entries_of_blank (blank : ∀ character ∈ gap, isBlank character) : entries gap = [] := by
  induction gap using breaks_induction with
  | unbroken gap unbroken =>
      rw [entries_of_unbroken unbroken, nonblank?_eq_none (Text.trim_eq_nil_iff.2 blank)]
      rfl
  | broken left character right breaks unbroken ih =>
      rw [List.forall_mem_append, List.forall_mem_cons] at blank
      rw [entries_append_break breaks, entries_of_unbroken unbroken,
        nonblank?_eq_none (Text.trim_eq_nil_iff.2 blank.1), ih blank.2.2]
      rfl

/-- Blanks in front of a text are in none of its entries. -/
theorem entries_append_left (blank : ∀ character ∈ gap, isBlank character) (text : Text) :
    entries (gap ++ text) = entries text := by
  induction gap using breaks_induction with
  | unbroken gap unbroken =>
      have same (rest : Text) : nonblank? (gap ++ rest) = nonblank? rest := by
        rw [nonblank?, nonblank?, Text.trim_append_left blank]
      induction text using breaks_induction with
      | unbroken text unbroken' =>
          rw [entries_of_unbroken (List.forall_mem_append.2 ⟨unbroken, unbroken'⟩),
            entries_of_unbroken unbroken', same]
      | broken left character right breaks unbroken' _ =>
          rw [← List.append_assoc, entries_append_break breaks, entries_append_break breaks,
            entries_of_unbroken (List.forall_mem_append.2 ⟨unbroken, unbroken'⟩),
            entries_of_unbroken unbroken', same]
  | broken left character right breaks unbroken ih =>
      rw [List.forall_mem_append, List.forall_mem_cons] at blank
      rw [List.append_assoc, List.cons_append, entries_append_break breaks,
        entries_of_blank blank.1, ih blank.2.2, List.nil_append]

theorem entries_append_right (blank : ∀ character ∈ gap, isBlank character) (text : Text) :
    entries (text ++ gap) = entries text := by
  induction text using breaks_induction with
  | unbroken text unbroken =>
      have same {rest : Text} (blank : ∀ character ∈ rest, isBlank character) :
          nonblank? (text ++ rest) = nonblank? text := by
        rw [nonblank?, nonblank?, Text.trim_append_right blank]
      induction gap using breaks_induction with
      | unbroken gap unbroken' =>
          rw [entries_of_unbroken (List.forall_mem_append.2 ⟨unbroken, unbroken'⟩),
            entries_of_unbroken unbroken, same blank]
      | broken left character right breaks unbroken' _ =>
          rw [List.forall_mem_append, List.forall_mem_cons] at blank
          rw [← List.append_assoc, entries_append_break breaks, entries_of_blank blank.2.2,
            entries_of_unbroken (List.forall_mem_append.2 ⟨unbroken, unbroken'⟩), same blank.1,
            entries_of_unbroken unbroken, List.append_nil]
  | broken left character right breaks unbroken ih =>
      rw [List.append_assoc, List.cons_append, entries_append_break breaks, ih,
        entries_append_break breaks]

theorem entries_ne_nil (filled : text.trim ≠ []) : entries text ≠ [] := by
  induction text using breaks_induction with
  | unbroken text unbroken =>
      rw [entries_of_unbroken unbroken, nonblank?_eq_some filled]
      simp
  | broken left character right breaks unbroken ih =>
      rw [entries_append_break breaks, Ne, List.append_eq_nil_iff, not_and_or]
      by_cases behind : right.trim = []
      · refine .inl ?_
        rw [entries_of_unbroken unbroken, nonblank?_eq_some]
        · simp
        · intro front
          rw [Text.trim_eq_nil_iff] at front behind
          refine filled (Text.trim_eq_nil_iff.2 (List.forall_mem_append.2 ⟨front, ?_⟩))
          exact List.forall_mem_cons.2 ⟨isBlank_of_isLineBreak breaks, behind⟩
      · exact .inr (ih behind)

/-! ## Single entries -/

/-- A text is its only entry when no break stands in what is left of it by trimming. -/
theorem entries_eq_singleton (filled : text.trim ≠ [])
    (unbroken : ∀ character ∈ text.trim, Text.isLineBreak character = false) :
    entries text = [text.trim] := by
  obtain ⟨before, after, whole, blank, blank'⟩ := Text.exists_trim text
  have same : entries text = entries text.trim := by
    calc entries text = entries (before ++ (text.trim ++ after)) := by rw [← whole]
      _ = entries text.trim := by rw [entries_append_left blank, entries_append_right blank']
  rw [same, entries_of_unbroken unbroken, nonblank?_eq_some (by rwa [Text.trim_trim]),
    Text.trim_trim]
  rfl

/-- A break between two characters that are not blank leaves something on both of its sides. -/
theorem two_le_length_entries (member : character ∈ text.trim)
    (breaks : Text.isLineBreak character = true) : 2 ≤ (entries text).length := by
  obtain ⟨before, after, whole, blank, blank'⟩ := Text.exists_trim text
  have head : ∀ first ∈ text.trim.head?, isBlank first = false := Text.isBlank_head?_trim
  have last : ∀ final ∈ text.trim.getLast?, isBlank final = false := Text.isBlank_getLast?_trim
  have broken := isBlank_of_isLineBreak breaks
  obtain ⟨left, right, split⟩ := List.append_of_mem member
  rw [split] at head last whole
  have front : Text.trim left ≠ [] := by
    cases left with
    | nil => exact absurd (broken.symm.trans (head character rfl)) Bool.noConfusion
    | cons first others => exact Text.trim_ne_nil List.mem_cons_self (head first rfl)
  have back : Text.trim right ≠ [] := by
    cases right using List.reverseRecOn with
    | nil => exact absurd (broken.symm.trans (last character (by simp))) Bool.noConfusion
    | append_singleton others final _ =>
        exact Text.trim_ne_nil (List.mem_append_right _ List.mem_cons_self)
          (last final (by simp [List.getLast?_cons]))
  rw [whole, entries_append_left blank, entries_append_right blank', entries_append_break breaks,
    List.length_append]
  have hasEntry := List.length_pos_iff.2 (entries_ne_nil front)
  have hasEntry' := List.length_pos_iff.2 (entries_ne_nil back)
  omega

/-- A text that is not blank has a single entry exactly when no break stands between its first and
its last character that is not blank. -/
theorem length_entries_eq_one_iff (filled : text.trim ≠ []) :
    (entries text).length = 1 ↔
      ∀ character ∈ text.trim, Text.isLineBreak character = false := by
  constructor
  · intro single character member
    by_contra breaks
    have two := two_le_length_entries member (Bool.not_eq_false _ ▸ breaks)
    omega
  · intro unbroken
    rw [entries_eq_singleton filled unbroken, List.length_singleton]

end Segmentation.Indentation
