import Segmentation.Text.Utf8

/-!
# Byte offsets between characters

A byte offset that cuts no character in two is the UTF-8 length of the characters before it. Such
offsets grow with the number of characters, and turning one into a character offset gives exactly
that number.
-/

namespace Segmentation.Text

theorem utf8Length_append (left right : Text) :
    utf8Length (left ++ right) = utf8Length left + utf8Length right := by
  induction left with
  | nil => simp
  | cons character rest ih =>
      rw [List.cons_append, utf8Length_cons, utf8Length_cons, ih, Nat.add_assoc]

theorem length_le_utf8Length (text : Text) : text.length ≤ utf8Length text := by
  induction text with
  | nil => exact Nat.le_refl 0
  | cons character rest ih =>
      have := character.utf8Size_pos
      rw [List.length_cons, utf8Length_cons]
      omega

theorem utf8Length_take_lt {text : Text} {left right : Nat} (before : left < right)
    (inside : right ≤ text.length) :
    utf8Length (text.take left) < utf8Length (text.take right) := by
  induction text generalizing left right with
  | nil =>
      rw [List.length_nil] at inside
      omega
  | cons character rest ih =>
      have positive := character.utf8Size_pos
      cases right with
      | zero => omega
      | succ right =>
          cases left with
          | zero =>
              rw [List.take_zero, List.take_succ_cons, utf8Length_cons, utf8Length_nil]
              omega
          | succ left =>
              have step := ih (Nat.lt_of_succ_lt_succ before) (Nat.le_of_succ_le_succ inside)
              rw [List.take_succ_cons, List.take_succ_cons, utf8Length_cons, utf8Length_cons]
              omega

theorem le_of_utf8Length_take_le {text : Text} {left right : Nat} (inside : left ≤ text.length)
    (ordered : utf8Length (text.take left) ≤ utf8Length (text.take right)) : left ≤ right := by
  rcases Nat.lt_or_ge right left with behind | before
  · have := utf8Length_take_lt behind inside
    omega
  · exact before

theorem charactersIn_take (position : Nat) {text : Text} {count : Nat}
    (inside : count ≤ text.length) :
    charactersIn position (utf8Length (text.take count)) text = .ok count := by
  induction text generalizing position count with
  | nil =>
      have : count = 0 := by simpa using inside
      subst this
      rfl
  | cons character rest ih =>
      cases count with
      | zero => simp [charactersIn]
      | succ count =>
          have positive := character.utf8Size_pos
          have rest' := ih (position + character.utf8Size) (Nat.le_of_succ_le_succ inside)
          rw [List.take_succ_cons, utf8Length_cons, charactersIn, if_neg (by omega),
            if_pos (Nat.le_add_right _ _), Nat.add_sub_cancel_left, rest']
          rfl

/-- In a text of one-byte characters, characters and bytes are counted alike. -/
theorem utf8Length_take_of_eq_length {text : Text} (narrow : text.utf8Length = text.length)
    {count : Nat} (inside : count ≤ text.length) : utf8Length (text.take count) = count := by
  have parts := utf8Length_append (text.take count) (text.drop count)
  rw [List.take_append_drop] at parts
  have front := length_le_utf8Length (text.take count)
  have back := length_le_utf8Length (text.drop count)
  rw [List.length_take] at front
  rw [List.length_drop] at back
  omega

/-- The offset in bytes of a character stands for its offset in characters. -/
theorem charOffset_take {text : Text} {count : Nat} (inside : count ≤ text.length) :
    charOffset text (utf8Length (text.take count)) = .ok count := by
  unfold charOffset
  split
  · next narrow => rw [utf8Length_take_of_eq_length narrow inside]
  · exact charactersIn_take 0 inside

/-! ## Bytes of slices -/

theorem utf8_append (left right : Text) : utf8 (left ++ right) = utf8 left ++ utf8 right :=
  List.flatMap_append

theorem utf8_slice (text : Text) {start stop : Nat} (ordered : start ≤ stop) :
    utf8 (text.slice start stop) =
      ((utf8 text).drop (utf8Length (text.take start))).take
        (utf8Length (text.take stop) - utf8Length (text.take start)) := by
  have split (count : Nat) (text : Text) : text = text.take count ++ text.drop count :=
    (List.take_append_drop count text).symm
  have front : utf8 text = utf8 (text.take start) ++ utf8 (text.drop start) := by
    rw [← utf8_append, ← split]
  have back : utf8 (text.drop start) =
      utf8 (text.slice start stop) ++ utf8 ((text.drop start).drop (stop - start)) := by
    rw [← utf8_append, slice_natCast, ← split]
  have size : utf8Length (text.take stop) =
      utf8Length (text.take start) + utf8Length (text.slice start stop) := by
    rw [← utf8Length_append, slice_natCast, ← List.take_add, Nat.add_sub_cancel' ordered]
  rw [front, ← length_utf8 (text.take start), List.drop_left, back, length_utf8, size,
    Nat.add_sub_cancel_left, ← length_utf8, List.take_left]

end Segmentation.Text
