import Mathlib.Data.List.TakeWhile
import Segmentation.Proofs.Text.Trim
import Segmentation.Text.Word

/-!
# Words of a text

A word of a text is a run of word characters that is as long as it can be. Blanks are no word
characters, so trimming a text never cuts a word short. Texts are read word by word
(`words_induction`): what stands between two words is passed character by character.
-/

namespace Segmentation

/-- The code points of blanks, as closed ranges in ascending order. -/
def blankRanges : List (Nat × Nat) :=
  [(9, 13), (28, 32), (0x85, 0x85), (0xa0, 0xa0), (0x1680, 0x1680), (0x2000, 0x200a),
   (0x2028, 0x2029), (0x202f, 0x202f), (0x205f, 0x205f), (0x3000, 0x3000)]

theorem isBlank_iff {character : Char} :
    isBlank character = true ↔
      ∃ range ∈ blankRanges, range.1 ≤ character.toNat ∧ character.toNat ≤ range.2 := by
  simp only [isBlank, blankRanges, Bool.or_eq_true, Bool.and_eq_true, decide_eq_true_eq,
    beq_iff_eq, List.mem_cons, List.not_mem_nil, or_false, exists_eq_or_imp, exists_eq_left]
  omega

theorem isWord_of_isBlank {character : Char} (blank : isBlank character = true) :
    isWord character = false := by
  have apart : ∀ range ∈ alphanumericRanges, ∀ blank ∈ blankRanges,
      range.2 < blank.1 ∨ blank.2 < range.1 := by
    decide +kernel
  obtain ⟨around, isRange, low, high⟩ := isBlank_iff.1 blank
  rw [isWord, Bool.or_eq_false_iff]
  constructor
  · rw [beq_eq_false_iff_ne]
    rintro rfl
    exact absurd blank (by decide)
  · rw [inRanges, List.any_eq_false]
    intro range member inside
    have := apart range member around isRange
    simp only [Bool.and_eq_true, decide_eq_true_eq] at inside
    omega

namespace Text

variable {text word front rest : Text} {character : Char}

/-- The word with which a text starts. It is empty when the text starts with something else. -/
def firstWord (text : Text) : Text :=
  text.takeWhile isWord

/-- The word with which a text ends. It is empty when the text ends with something else. -/
def lastWord (text : Text) : Text :=
  text.rtakeWhile isWord

/-! ## First words -/

/-- What stands behind a character that is in no word is not part of the first word. -/
theorem firstWord_append_break (breaks : isWord character = false) (front rest : Text) :
    firstWord (front ++ character :: rest) = front.firstWord := by
  induction front with
  | nil => exact List.takeWhile_cons_of_neg (by simp [breaks])
  | cons first others ih =>
      simp only [firstWord, List.cons_append, List.takeWhile_cons] at ih ⊢
      rw [ih]

theorem firstWord_eq_nil (outside : ∀ character ∈ text, isWord character = false) :
    text.firstWord = [] := by
  cases text with
  | nil => rfl
  | cons first others =>
      exact List.takeWhile_cons_of_neg (Bool.eq_false_iff.1 (outside first List.mem_cons_self))

theorem isWord_of_firstWord_eq_nil (noWord : firstWord (character :: rest) = []) :
    isWord character = false := by
  rw [firstWord, List.takeWhile_cons] at noWord
  cases kind : isWord character with
  | false => rfl
  | true => simp [kind] at noWord

theorem firstWord_word_append (each : ∀ character ∈ word, isWord character = true)
    (ends : rest.firstWord = []) : firstWord (word ++ rest) = word := by
  rw [firstWord, List.takeWhile_append_of_pos each, ← firstWord, ends, List.append_nil]

theorem firstWord_dropWhile (text : Text) : firstWord (text.dropWhile isWord) = [] := by
  cases behind : text.dropWhile isWord with
  | nil => rfl
  | cons first others =>
      have stops := List.head_dropWhile_not isWord (l := text) (by rw [behind]; simp)
      simp only [behind, List.head_cons] at stops
      exact List.takeWhile_cons_of_neg (Bool.eq_false_iff.1 stops)

/-- Texts are read word by word, and between words character by character. -/
theorem words_induction {motive : Text → Prop} (nil : motive [])
    (gap : ∀ character rest, isWord character = false → motive rest → motive (character :: rest))
    (word : ∀ word rest, word ≠ [] → (∀ character ∈ word, isWord character = true) →
      firstWord rest = [] → motive rest → motive (word ++ rest)) (text : Text) : motive text := by
  induction length : text.length using Nat.strong_induction_on generalizing text with
  | _ count ih =>
      cases text with
      | nil => exact nil
      | cons character rest =>
          cases kind : isWord character with
          | false => exact gap character rest kind (ih rest.length (by simp [← length]) rest rfl)
          | true =>
              have split := List.takeWhile_append_dropWhile (p := isWord) (l := character :: rest)
              have shorter := (List.dropWhile_sublist isWord (l := rest)).length_le
              rw [← split]
              refine word _ _ ?_ (fun _ member => List.mem_takeWhile_imp member)
                (firstWord_dropWhile _) (ih _ ?_ _ rfl)
              · simp [kind]
              · rw [List.dropWhile_cons_of_pos kind, ← length, List.length_cons]
                exact Nat.lt_succ_of_le shorter

/-! ## Last words -/

/-- What stands in front of a character that is in no word is not part of the last word. -/
theorem lastWord_append_break (breaks : isWord character = false) (front rest : Text) :
    lastWord (front ++ character :: rest) = rest.lastWord := by
  have reversed := congrArg List.reverse (firstWord_append_break breaks rest.reverse front.reverse)
  simpa [lastWord, firstWord, List.rtakeWhile] using reversed

end Text

end Segmentation
