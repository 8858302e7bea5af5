import Mathlib.Data.List.DropRight
import Mathlib.Data.List.TakeWhile
import Segmentation.Text.Basic

/-!
# Trimming

Trimming takes the blanks at the ends of a text, and no others: it stops at the first and at the
last character that is not blank. Every line break is a blank.
-/

namespace Segmentation

theorem isBlank_of_isLineBreak {character : Char} (breaks : Text.isLineBreak character = true) :
    isBlank character = true := by
  simp only [Text.isLineBreak, Bool.or_eq_true, Bool.and_eq_true, decide_eq_true_eq,
    beq_iff_eq] at breaks
  simp only [isBlank, Bool.or_eq_true, Bool.and_eq_true, decide_eq_true_eq, beq_iff_eq]
  omega

namespace Text

variable {text gap front rest : Text} {character : Char}

/-! ## One end -/

/-- Blanks are trimmed at the start of a text up to the first character that is not blank. -/
theorem trimStart_append (solid : isBlank character = false) (front rest : Text) :
    trimStart (front ++ character :: rest) = front.trimStart ++ character :: rest := by
  rw [trimStart, trimStart, List.dropWhile_append, List.dropWhile_cons_of_neg (by simp [solid])]
  split
  · next empty => rw [List.isEmpty_iff.1 empty, List.nil_append]
  · rfl

theorem trimEnd_append (solid : isBlank character = false) (front rest : Text) :
    trimEnd (front ++ character :: rest) = front ++ character :: rest.trimEnd := by
  have reversed := congrArg List.reverse (trimStart_append solid rest.reverse front.reverse)
  simpa [trimEnd, trimStart] using reversed

theorem trimEnd_eq_nil_iff : text.trimEnd = [] ↔ ∀ character ∈ text, isBlank character := by
  rw [trimEnd, List.reverse_eq_nil_iff, List.dropWhile_eq_nil_iff]
  simp only [List.mem_reverse]

theorem exists_trimStart (text : Text) : ∃ gap, text = gap ++ text.trimStart := by
  obtain ⟨gap, whole⟩ := List.dropWhile_suffix (l := text) isBlank
  exact ⟨gap, whole.symm⟩

theorem exists_trimEnd (text : Text) : ∃ gap, text = text.trimEnd ++ gap := by
  obtain ⟨gap, whole⟩ := List.rdropWhile_prefix isBlank text
  exact ⟨gap, whole.symm⟩

theorem trim_isInfix (text : Text) : text.trim <:+: text := by
  obtain ⟨gap, front⟩ := exists_trimStart text
  obtain ⟨gap', back⟩ := exists_trimEnd text.trimStart
  refine ⟨gap, gap', ?_⟩
  rw [trim, List.append_assoc, ← back, ← front]

theorem mem_trim_iff (solid : isBlank character = false) :
    character ∈ text.trim ↔ character ∈ text := by
  constructor
  · intro member
    exact (trim_isInfix text).subset member
  · intro member
    obtain ⟨front, rest, rfl⟩ := List.append_of_mem member
    rw [trim, trimStart_append solid, trimEnd_append solid]
    exact List.mem_append_right _ List.mem_cons_self

/-- A text that holds more than blanks keeps what is in front of it when it is trimmed. -/
theorem trimEnd_append_of_solid (solid : ∃ character ∈ rest, isBlank character = false)
    (front : Text) : trimEnd (front ++ rest) = front ++ rest.trimEnd := by
  obtain ⟨character, member, solid⟩ := solid
  obtain ⟨before, after, rfl⟩ := List.append_of_mem member
  rw [← List.append_assoc, trimEnd_append solid, trimEnd_append solid, List.append_assoc]

theorem trimEnd_append_of_blank (blank : ∀ character ∈ rest, isBlank character = true)
    (front : Text) : trimEnd (front ++ rest) = front.trimEnd := by
  rw [trimEnd, List.reverse_append, List.dropWhile_append_of_pos fun character member =>
    blank character (List.mem_reverse.1 member)]
  rfl

theorem trimStart_append_of_solid (solid : ∃ character ∈ front, isBlank character = false)
    (rest : Text) : trimStart (front ++ rest) = front.trimStart ++ rest := by
  obtain ⟨character, member, solid⟩ := solid
  obtain ⟨before, after, rfl⟩ := List.append_of_mem member
  rw [List.append_assoc, List.cons_append, trimStart_append solid, trimStart_append solid,
    List.append_assoc, List.cons_append]

theorem trimStart_append_of_blank (blank : ∀ character ∈ front, isBlank character = true)
    (rest : Text) : trimStart (front ++ rest) = rest.trimStart :=
  List.dropWhile_append_of_pos blank

theorem blank_or_solid (text : Text) : (∀ character ∈ text, isBlank character = true) ∨
    ∃ character ∈ text, isBlank character = false := by
  rw [← Decidable.not_forall_not]
  simp only [not_and, Bool.not_eq_false]
  exact Decidable.em _

/-! ## Both ends -/

theorem trim_append_left (blank : ∀ character ∈ gap, isBlank character) (text : Text) :
    trim (gap ++ text) = text.trim := by
  rw [trim, trimStart, List.dropWhile_append_of_pos blank]
  rfl

theorem trim_append_right (blank : ∀ character ∈ gap, isBlank character) (text : Text) :
    trim (text ++ gap) = text.trim := by
  rw [trim, trimStart, List.dropWhile_append]
  split
  · next empty =>
      rw [List.dropWhile_eq_nil_iff.2 blank, trim, trimStart, List.isEmpty_iff.1 empty]
  · exact trimEnd_append_of_blank blank _

/-- A text consists of blanks, what is left of it by trimming, and blanks. -/
theorem exists_trim (text : Text) : ∃ before after, text = before ++ (text.trim ++ after) ∧
    (∀ character ∈ before, isBlank character) ∧ ∀ character ∈ after, isBlank character := by
  have front : text.takeWhile isBlank ++ text.trimStart = text := List.takeWhile_append_dropWhile
  have back : text.trim ++ text.trimStart.rtakeWhile isBlank = text.trimStart :=
    List.rdropWhile_append_rtakeWhile
  exact ⟨_, _, by rw [back, front], fun _ member => List.mem_takeWhile_imp member,
    fun _ member => List.mem_rtakeWhile_imp member⟩

theorem isBlank_head?_trim : ∀ character ∈ text.trim.head?, isBlank character = false := by
  intro character head
  obtain ⟨others, starts⟩ := List.head?_eq_some_iff.1 head
  have whole : text.trim <+: text.dropWhile isBlank := List.rdropWhile_prefix _ _
  rw [starts] at whole
  obtain ⟨after, split⟩ := whole
  have first := List.head_dropWhile_not isBlank (l := text) (by rw [← split]; simp)
  simpa only [← split, List.cons_append, List.head_cons] using first

theorem isBlank_getLast?_trim : ∀ character ∈ text.trim.getLast?, isBlank character = false := by
  intro character last
  obtain ⟨front, ends⟩ := List.getLast?_eq_some_iff.1 last
  have filled : text.trimStart.rdropWhile isBlank ≠ [] := by
    change text.trim ≠ []
    rw [ends]
    simp
  have solid := List.rdropWhile_last_not isBlank _ filled
  have same : text.trimStart.rdropWhile isBlank = front ++ [character] := ends
  simpa only [same, List.getLast_concat, Bool.not_eq_true] using solid

theorem trim_trim (text : Text) : text.trim.trim = text.trim := by
  obtain ⟨before, after, whole, blank, blank'⟩ := exists_trim text
  have again := congrArg trim whole
  rw [trim_append_left blank, trim_append_right blank'] at again
  exact again.symm

theorem trim_eq_nil_iff : text.trim = [] ↔ ∀ character ∈ text, isBlank character := by
  constructor
  · intro nothing
    obtain ⟨before, after, whole, blank, blank'⟩ := exists_trim text
    rw [nothing, List.nil_append] at whole
    rw [whole]
    exact List.forall_mem_append.2 ⟨blank, blank'⟩
  · intro blank
    have nothing := trim_append_left blank []
    rw [List.append_nil] at nothing
    exact nothing

theorem trim_ne_nil (member : character ∈ text) (solid : isBlank character = false) :
    text.trim ≠ [] := by
  rw [Ne, trim_eq_nil_iff]
  intro blank
  rw [blank character member] at solid
  exact absurd solid Bool.noConfusion

end Text

end Segmentation
