import Segmentation.Proofs.Text.WholeLines
import Segmentation.Window

/-!
# The line of an offset

An offset lies on the line that the newlines before it count. Within a slice lines are counted on
from the one on which it starts, and behind other text from those of that text.
-/

namespace Segmentation

namespace Text

/-- The line, counted from one, that an offset lies on. -/
def lineNumber (source : Text) (offset : Int) : Int :=
  newlines (source.take offset.toNat) + 1

variable {source : Text}

theorem lineNumber_zero (source : Text) : source.lineNumber 0 = 1 := rfl

theorem lineNumber_length (source : Text) :
    source.lineNumber source.length = source.newlines + 1 := by
  rw [lineNumber, Int.toNat_natCast, List.take_length]

theorem lineNumber_pos (source : Text) (offset : Int) : 1 ≤ source.lineNumber offset := by
  rw [lineNumber]
  omega

theorem lineNumber_le (source : Text) (offset : Int) :
    source.lineNumber offset ≤ source.newlines + 1 := by
  have fewer : newlines (source.take offset.toNat) ≤ source.newlines :=
    (List.take_sublist offset.toNat source).count_le _
  rw [lineNumber]
  omega

theorem lineNumber_mono {left right : Int} (ordered : left.toNat ≤ right.toNat) :
    source.lineNumber left ≤ source.lineNumber right := by
  have fewer : newlines (source.take left.toNat) ≤ newlines (source.take right.toNat) :=
    newlines_take_le ordered
  rw [lineNumber, lineNumber]
  omega

/-- Inside a slice, lines are counted on from the one on which the slice starts. -/
theorem lineNumber_add {start stop : Int} {distance : Nat} (nonneg : 0 ≤ start)
    (inside : distance ≤ (source.slice start stop).length) :
    source.lineNumber (start + distance) =
      source.lineNumber start + newlines ((source.slice start stop).take distance) := by
  obtain ⟨first, rfl⟩ := Int.eq_ofNat_of_zero_le nonneg
  have taken : (source.slice first stop).take distance = (source.drop first).take distance := by
    rw [slice, List.length_take, List.length_drop] at inside
    have start : clamp source.length (first : Int) = min first source.length := by
      simp [clamp, show ¬(first : Int) < 0 by omega]
    rw [start] at inside
    rcases Nat.le_total first source.length with within | outside
    · rw [Nat.min_eq_left within] at inside
      rw [slice, start, Nat.min_eq_left within, List.take_take, Nat.min_eq_left (by omega)]
    · obtain rfl : distance = 0 := by omega
      rw [List.take_zero, List.take_zero]
  have place : ((first : Int) + distance).toNat = first + distance := by omega
  rw [taken, lineNumber, lineNumber, place, Int.toNat_natCast, List.take_add, newlines_append]
  omega

/-- Behind other text, lines are counted on from those of that text. -/
theorem lineNumber_append (before source : Text) {offset : Int} (nonneg : 0 ≤ offset) :
    (before ++ source).lineNumber (offset + before.length) =
      source.lineNumber offset + before.newlines := by
  obtain ⟨position, rfl⟩ := Int.eq_ofNat_of_zero_le nonneg
  rw [lineNumber, lineNumber, ← Int.natCast_add, Int.toNat_natCast, Int.toNat_natCast,
    Nat.add_comm position, newlines_take_append]
  omega

end Text

theorem Window.lineAt_eq (source : Text) {offset : Int} (nonneg : 0 ≤ offset) :
    lineAt source offset = source.lineNumber offset := by
  obtain ⟨position, rfl⟩ := Int.eq_ofNat_of_zero_le nonneg
  have front : source.slice 0 position = source.take position :=
    Text.slice_natCast source 0 position
  rw [lineAt, front, Text.lineNumber, Int.toNat_natCast]

theorem Window.lineAt_append (before source : Text) {offset : Int} (nonneg : 0 ≤ offset) :
    lineAt (before ++ source) (offset + before.length) =
      lineAt source offset + before.newlines := by
  rw [lineAt_eq _ (by omega), lineAt_eq _ nonneg, Text.lineNumber_append before source nonneg]

end Segmentation
