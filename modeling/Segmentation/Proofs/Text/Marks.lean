import Mathlib.Data.List.Infix
import Mathlib.Data.List.TakeWhile
import Segmentation.Proofs.Text.Trim

/-!
# Marks in a text

A mark is a word that is looked for in a text. A text is cut at the first place where the mark
stands. That place does not change when blanks at the ends are trimmed, and in lines that are joined
by newlines it is the place of the mark in the first line that holds it.
-/

namespace Segmentation.Text

variable {mark : String} {text line front rest : Text}

/-! ## The first place of a mark -/

theorem startsWith_iff : text.startsWith mark = true ↔ mark.toList <+: text :=
  List.isPrefixOf_iff_prefix

theorem exists_behind {character : Char} {others before after : Text}
    (starts : ¬startsWith (character :: others) mark = true)
    (split : character :: others = before ++ (mark.toList ++ after)) :
    ∃ before', before = character :: before' ∧ others = before' ++ (mark.toList ++ after) := by
  cases before with
  | nil => exact absurd (startsWith_iff.2 ⟨after, split.symm⟩) starts
  | cons first before' =>
      rw [List.cons_append, List.cons.injEq] at split
      exact ⟨before', by rw [split.1], split.2⟩

/-- A text is cut at the first place where the mark stands. -/
theorem cutAt?_eq_some_iff :
    cutAt? mark text = some (front, rest) ↔ text = front ++ (mark.toList ++ rest) ∧
      ∀ before after, text = before ++ (mark.toList ++ after) → front.length ≤ before.length := by
  induction text generalizing front with
  | nil =>
      simp only [cutAt?, List.isEmpty_iff, Option.ite_none_right_eq_some, Option.some.injEq,
        Prod.mk.injEq]
      constructor
      · rintro ⟨empty, rfl, rfl⟩
        exact ⟨by rw [empty]; rfl, fun _ _ _ => Nat.zero_le _⟩
      · rintro ⟨whole, -⟩
        simp only [List.nil_eq, List.append_eq_nil_iff] at whole
        exact ⟨whole.2.1, whole.1.symm, whole.2.2.symm⟩
  | cons character others ih =>
      by_cases starts : startsWith (character :: others) mark = true
      · rw [cutAt?, if_pos starts, Option.some.injEq, Prod.mk.injEq]
        obtain ⟨after, whole⟩ := startsWith_iff.1 starts
        have remains : (character :: others).drop mark.length = after := by
          rw [← whole, ← String.length_toList, List.drop_left]
        rw [remains]
        constructor
        · rintro ⟨rfl, rfl⟩
          exact ⟨whole.symm, fun _ _ _ => Nat.zero_le _⟩
        · rintro ⟨split, first⟩
          have empty : front = [] := List.eq_nil_of_length_eq_zero
            (Nat.le_zero.1 (first [] after whole.symm))
          subst empty
          rw [List.nil_append, ← whole] at split
          exact ⟨rfl, List.append_cancel_left split⟩
      · rw [cutAt?, if_neg starts, Option.map_eq_some_iff]
        constructor
        · rintro ⟨⟨front', rest'⟩, cut, equal⟩
          rw [Prod.mk.injEq] at equal
          obtain ⟨rfl, rfl⟩ := equal
          obtain ⟨split, first⟩ := ih.1 cut
          refine ⟨by rw [List.cons_append, ← split], fun before after split' => ?_⟩
          obtain ⟨before', rfl, split''⟩ := exists_behind starts split'
          exact Nat.succ_le_succ (first before' after split'')
        · rintro ⟨split, first⟩
          obtain ⟨front', rfl, split'⟩ := exists_behind starts split
          refine ⟨(front', rest), ih.2 ⟨split', fun before after split'' => ?_⟩, rfl⟩
          have later := first (character :: before) after (by rw [List.cons_append, ← split''])
          exact Nat.le_of_succ_le_succ later

/-- Behind a text that does not hold the mark and does not end like it, the text is cut there. -/
theorem cutAt?_append (unmarked : ¬mark.toList <:+: front)
    (ending : ∀ character ∈ front.getLast?, character ∉ mark.toList) (rest : Text) :
    cutAt? mark (front ++ (mark.toList ++ rest)) = some (front, rest) := by
  refine cutAt?_eq_some_iff.2 ⟨rfl, fun before after split => ?_⟩
  obtain ⟨more, rfl, -⟩ | ⟨part, whole, split'⟩ := List.append_eq_append_iff.1 split
  · rw [List.length_append]
    exact Nat.le_add_right _ _
  · -- a mark that starts earlier stands within the front, or the front ends within the mark
    obtain ⟨more, overlap, -⟩ | ⟨more, inside, -⟩ := List.append_eq_append_iff.1 split'.symm
    · cases part using List.reverseRecOn with
      | nil => rw [whole, List.append_nil]
      | append_singleton others last _ =>
          refine absurd ?_ (ending last ?_)
          · rw [overlap]
            exact List.mem_append_left _ (List.mem_append_right _ List.mem_cons_self)
          · rw [whole, ← List.append_assoc, List.getLast?_concat]
            rfl
    · exact absurd ⟨before, more, by rw [whole, inside, List.append_assoc]⟩ unmarked

theorem contains_iff_isInfix : text.contains mark = true ↔ mark.toList <:+: text := by
  induction text with
  | nil =>
      rw [List.infix_nil, contains, cutAt?]
      cases mark.toList <;> simp
  | cons character others ih =>
      rw [List.infix_cons_iff, ← startsWith_iff, ← ih, contains, contains, cutAt?]
      split
      · next starts => simp [starts]
      · next starts => simp [starts]

theorem contains_eq_false_iff : text.contains mark = false ↔ cutAt? mark text = none := by
  rw [contains, Option.isSome_eq_false_iff, Option.isNone_iff_eq_none]

theorem cutAt?_eq_none_iff : cutAt? mark text = none ↔ ¬mark.toList <:+: text := by
  rw [← contains_eq_false_iff, Bool.eq_false_iff, Ne, contains_iff_isInfix]

/-- A part of a text holds no mark that the text does not hold. -/
theorem cutAt?_eq_none_of_isInfix {part : Text} (inside : part <:+: text)
    (unmarked : cutAt? mark text = none) : cutAt? mark part = none := by
  rw [cutAt?_eq_none_iff] at unmarked ⊢
  intro marked
  exact unmarked (marked.trans inside)

/-- In front of a mark of one character stands what does not hold the character. -/
theorem before_character {character : Char} (single : mark.toList = [character]) (text : Text) :
    text.before mark = text.takeWhile (· != character) := by
  have starts (first : Char) (others : Text) :
      startsWith (first :: others) mark = (character == first) := by
    simp [startsWith, single, List.isPrefixOf]
  have length : mark.length = 1 := by rw [← String.length_toList, single, List.length_singleton]
  have cut : cutAt? mark text = none ∧ text.takeWhile (· != character) = text ∨
      ∃ rest, cutAt? mark text = some (text.takeWhile (· != character), rest) := by
    induction text with
    | nil => exact .inl ⟨by simp [cutAt?, single], rfl⟩
    | cons first others ih =>
        by_cases here : character = first
        · subst here
          exact .inr ⟨others, by simp [cutAt?, starts, length]⟩
        · rcases ih with ⟨uncut, whole⟩ | ⟨rest, found⟩
          · exact .inl ⟨by simp [cutAt?, starts, uncut, here], by simp [Ne.symm here, whole]⟩
          · exact .inr ⟨rest, by simp [cutAt?, starts, found, here, Ne.symm here]⟩
  rcases cut with ⟨uncut, whole⟩ | ⟨rest, found⟩
  · rw [before, uncut, whole]
  · rw [before, found]

/-- What is in front of a mark of one character does not depend on what is behind the mark. -/
theorem before_append_character {character : Char} (single : mark.toList = [character])
    (front rest : Text) : before mark (front ++ character :: rest) = before mark front := by
  rw [before_character single, before_character single]
  induction front with
  | nil => simp
  | cons first others ih => simp only [List.cons_append, List.takeWhile_cons, ih]

/-! ## Marks and trimming -/

/-- What is in front of a mark of one character is all but for blanks exactly when the character is
not in the text. -/
theorem trim_before_eq_iff {character : Char} (single : mark.toList = [character])
    (solid : isBlank character = false) (text : Text) :
    (text.before mark).trim = text.trim ↔ character ∉ text := by
  rw [before_character single]
  constructor
  · intro same member
    rw [← mem_trim_iff solid, ← same, mem_trim_iff solid] at member
    exact absurd (List.mem_takeWhile_imp member) (by simp)
  · intro absent
    rw [List.takeWhile_eq_self_iff.2]
    intro other member
    rw [bne_iff_ne]
    rintro rfl
    exact absent member

theorem cutAt?_trim (filled : mark.toList ≠ [])
    (solid : mark.toList.any isBlank = false) (cut : cutAt? mark text = some (front, rest)) :
    cutAt? mark text.trim = some (front.trimStart, rest.trimEnd) := by
  simp only [List.any_eq_false, Bool.not_eq_true] at solid
  obtain ⟨split, earliest⟩ := cutAt?_eq_some_iff.1 cut
  obtain ⟨first, word, starts⟩ := List.exists_cons_of_ne_nil filled
  have solidFirst := solid first (by rw [starts]; exact List.mem_cons_self)
  have ends := List.dropLast_concat_getLast filled
  have solidLast := solid _ (List.getLast_mem filled)
  have trimmed : text.trim = front.trimStart ++ (mark.toList ++ rest.trimEnd) := by
    rw [trim, split, starts, List.cons_append, trimStart_append solidFirst, ← List.cons_append,
      ← starts, ← ends, List.append_assoc, List.singleton_append, ← List.append_assoc,
      trimEnd_append solidLast, List.append_assoc, List.append_assoc, List.singleton_append]
  refine cutAt?_eq_some_iff.2 ⟨trimmed, fun before after split' => ?_⟩
  obtain ⟨gap, lead⟩ := exists_trimStart front
  obtain ⟨gap', tail⟩ := exists_trimEnd rest
  have place : text = (gap ++ before) ++ (mark.toList ++ (after ++ gap')) := by
    calc text = front ++ (mark.toList ++ rest) := split
      _ = (gap ++ front.trimStart) ++ (mark.toList ++ (rest.trimEnd ++ gap')) := by
        rw [← lead, ← tail]
      _ = gap ++ (text.trim ++ gap') := by rw [trimmed]; simp only [List.append_assoc]
      _ = (gap ++ before) ++ (mark.toList ++ (after ++ gap')) := by
        rw [split']; simp only [List.append_assoc]
  have later := earliest _ _ place
  have length := congrArg List.length lead
  rw [List.length_append] at length later
  omega

/-! ## Joined lines -/

/-- What a line starts with does not depend on what follows its newline, for a word without one. -/
theorem isPrefixOf_append_newline {word : Text} (inLine : '\n' ∉ word) (line rest : Text) :
    word.isPrefixOf (line ++ '\n' :: rest) = word.isPrefixOf line := by
  induction word generalizing line with
  | nil => rw [List.isPrefixOf_nil_left, List.isPrefixOf_nil_left]
  | cons character others ih =>
      rw [List.mem_cons, not_or] at inLine
      cases line with
      | nil => simp [List.isPrefixOf, Ne.symm inLine.1]
      | cons first later => simp only [List.cons_append, List.isPrefixOf, ih inLine.2 later]

theorem cutAt?_line (filled : mark.toList ≠ []) (inLine : '\n' ∉ mark.toList)
    (unmarked : cutAt? mark line = none) (text : Text) :
    cutAt? mark (line ++ '\n' :: text) =
      (cutAt? mark text).map fun (front, rest) => (line ++ '\n' :: front, rest) := by
  induction line with
  | nil =>
      have other : startsWith ('\n' :: text) mark = false := by
        cases whole : mark.toList with
        | nil => exact absurd whole filled
        | cons first others =>
            rw [whole, List.mem_cons, not_or] at inLine
            simp [startsWith, whole, List.isPrefixOf, Ne.symm inLine.1]
      rw [List.nil_append, cutAt?, if_neg (by simp [other])]
      rfl
  | cons character others ih =>
      rw [cutAt?] at unmarked
      split at unmarked
      · exact absurd unmarked (by simp)
      · next other =>
          rw [startsWith, ← isPrefixOf_append_newline inLine _ text, ← startsWith,
            List.cons_append] at other
          rw [List.cons_append, cutAt?, if_neg other, ih (Option.map_eq_none_iff.1 unmarked),
            Option.map_map]
          rfl

/-- The first mark in joined lines is that of the first line that holds it. -/
theorem cutAt?_joinLines (filled : mark.toList ≠ []) (inLine : '\n' ∉ mark.toList)
    {before : List Text} (unmarked : ∀ line ∈ before, cutAt? mark line = none)
    (cut : cutAt? mark line = some (front, rest)) :
    cutAt? mark (joinLines (before ++ [line])) = some (joinLines (before ++ [front]), rest) := by
  induction before with
  | nil => exact cut
  | cons first others ih =>
      rw [List.forall_mem_cons] at unmarked
      have later := ih unmarked.2
      cases others with
      | nil => simpa [joinLines, cutAt?_line filled inLine unmarked.1] using cut
      | cons next others =>
          simp only [List.cons_append, joinLines] at later ⊢
          rw [cutAt?_line filled inLine unmarked.1, later]
          rfl

theorem cutAt?_joinLines_eq_none (filled : mark.toList ≠ []) (inLine : '\n' ∉ mark.toList)
    {lines : List Text} (unmarked : ∀ line ∈ lines, cutAt? mark line = none) :
    cutAt? mark (joinLines lines) = none := by
  induction lines with
  | nil => simp [joinLines, cutAt?, filled]
  | cons first others ih =>
      rw [List.forall_mem_cons] at unmarked
      have later := ih unmarked.2
      cases others with
      | nil => exact unmarked.1
      | cons next others => rw [joinLines, cutAt?_line filled inLine unmarked.1, later]; rfl

end Segmentation.Text
