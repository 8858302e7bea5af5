import Mathlib.Algebra.Order.Floor.Ring
import Mathlib.Data.Rat.Floor
import Mathlib.Tactic.FieldSimp
import Mathlib.Tactic.Linarith
import Segmentation.Proofs.Window

/-!
# Where windows stand

Windows start at even distances. All but the last hold as many characters as they may, and the last
one ends with the chunk, so how many there are is a matter of division. Windows that follow one
another share what the distance is smaller than a window; without it the later ones continue the
first one to the content of the chunk.
-/

namespace Segmentation

namespace Text

theorem drop_slice (text : Text) {first second : Int} (count : Nat) (nonneg : 0 ≤ first)
    (ordered : first ≤ second) :
    (text.slice first second).drop count = text.slice (first + count) second := by
  obtain ⟨start, rfl⟩ := Int.eq_ofNat_of_zero_le nonneg
  obtain ⟨length, rfl⟩ := Int.le.dest ordered
  simp only [← Int.natCast_add, slice_natCast]
  rw [List.drop_take, List.drop_drop]
  congr 1
  omega

end Text

namespace Window

variable {maxSize start stop : Int} {step number : Nat} {forward : 0 < step}

/-- Where the window with the given number stands, when it is there. -/
def place (maxSize : Int) (step : Nat) (start stop : Int) (number : Nat) : Int × Int :=
  (start + number * step, min (start + number * step + maxSize) stop)

theorem eq_place {window : Int × Int}
    (found : (ranges maxSize step forward start stop)[number]? = some window) :
    window = place maxSize step start stop number := by
  fun_induction ranges maxSize step forward start stop generalizing number with
  | case1 start last =>
      obtain ⟨rfl, rfl⟩ : number = 0 ∧ (start, stop) = window := by
        simpa [List.getElem?_singleton] using found
      simp [place, Int.min_eq_right last]
  | case2 start more ih =>
      cases number with
      | zero =>
          obtain rfl : (start, start + maxSize) = window := by simpa using found
          simp only [place, Int.natCast_zero, Int.zero_mul, Int.add_zero]
          rw [Int.min_eq_left (by omega)]
      | succ number =>
          rw [List.getElem?_cons_succ] at found
          rw [ih found, place, place]
          have distance : start + step + (number : Int) * step =
              start + (number + 1 : Nat) * step := by
            rw [Int.natCast_succ, Int.add_mul]
            omega
          rw [distance]

/-- A window is followed by another one exactly if it would not reach the end. -/
theorem succ_lt_length_iff (forward : 0 < step) (number : Nat) :
    number + 1 < (ranges maxSize step forward start stop).length ↔
      start + number * step + maxSize < stop := by
  fun_induction ranges maxSize step forward start stop generalizing number with
  | case1 start last =>
      have : 0 ≤ (number : Int) * step := by positivity
      simp only [List.length_singleton]
      omega
  | case2 start more ih =>
      rw [List.length_cons]
      cases number with
      | zero =>
          have : 0 < (ranges maxSize step forward (start + step) stop).length :=
            List.length_pos_iff.2 ranges_ne_nil
          simp only [Int.natCast_zero, Int.zero_mul, Int.add_zero]
          omega
      | succ number =>
          rw [Nat.add_lt_add_iff_right, ih, Int.natCast_succ, Int.add_mul]
          omega

/-- There are as many windows as steps are begun in what the first window leaves, and the first. -/
theorem length_ranges (large : maxSize < stop - start) :
    ((ranges maxSize step forward start stop).length : Int) =
      ⌈((stop - start - (maxSize - step) : Int) : ℚ) / step⌉ := by
  have first := (succ_lt_length_iff forward 0).2
    (show start + (0 : Nat) * (step : Int) + maxSize < stop by simp; omega)
  obtain ⟨others, count⟩ := Nat.exists_eq_add_of_le' (show 2 ≤ _ from first)
  have before := (succ_lt_length_iff forward others).1
    (show others + 1 < (ranges maxSize step forward start stop).length by omega)
  have last := mt (succ_lt_length_iff forward (others + 1)).2
    (show ¬others + 1 + 1 < (ranges maxSize step forward start stop).length by omega)
  have positive : (0 : ℚ) < step := by exact_mod_cast forward
  symm
  rw [count, Int.ceil_eq_iff, lt_div_iff₀ positive, div_le_iff₀ positive]
  constructor
  · have : ((others : Int) + 1) * step < stop - start - (maxSize - step) := by
      rw [Int.add_mul]
      omega
    push_cast at this ⊢
    have := (Int.cast_lt (R := ℚ)).2 this
    push_cast at this
    linarith
  · have : stop - start - (maxSize - step) ≤ ((others : Int) + 2) * step := by
      rw [Int.natCast_succ, Int.add_mul] at last
      rw [Int.add_mul]
      omega
    have := (Int.cast_le (R := ℚ)).2 this
    push_cast at this ⊢
    linarith

/-- The windows without what each shares with the one before it, one after the other. -/
theorem flatMap_drop_ranges (source : Text) (forward : 0 < step) (nonneg : 0 ≤ start)
    (short : (step : Int) ≤ maxSize) (long : start + (maxSize - step) ≤ stop) :
    ((ranges maxSize step forward start stop).flatMap fun window =>
      (source.slice window.1 window.2).drop (maxSize - step).toNat) =
        source.slice (start + (maxSize - step)) stop := by
  have shared : ((maxSize - step).toNat : Int) = maxSize - step := by omega
  fun_induction ranges maxSize step forward start stop with
  | case1 start last =>
      rw [List.flatMap_singleton, Text.drop_slice source _ nonneg (by omega), shared]
  | case2 start more ih =>
      rw [List.flatMap_cons, ih (by omega) (by omega),
        Text.drop_slice source _ nonneg (by omega), shared,
        show start + (step : Int) + (maxSize - step) = start + maxSize by omega]
      exact Text.slice_append_slice source (by omega) (by omega) (by omega)

end Window

namespace Chunk

variable {chunk : Chunk} {source : Text} {maxSize overlap : Int}

/-- The window of a chunk with the given number, of `total` ones: windows start `step` characters
apart, and all of them but the last hold `maxSize` characters. -/
structure IsWindow (chunk : Chunk) (source : Text) (maxSize : Int) (step number total : Nat)
    (window : Chunk) : Prop where
  slice : window.IsSlice source
  startOffset_eq : window.startOffset = chunk.startOffset + number * step
  full : number + 1 < total → (window.size : Int) = maxSize
  final : number + 1 = total → maxSize - step < window.size ∧ (window.size : Int) ≤ maxSize ∧
    window.endOffset = chunk.endOffset

/-- All windows of a chunk, from the first to the last. Each ends with what the next one begins
with, and without that the later ones continue the first one to the content of the chunk. -/
structure WindowsOf (chunk : Chunk) (source : Text) (maxSize : Int) (step : Nat)
    (windows : List Chunk) : Prop where
  length_eq : (windows.length : Int) = ⌈((chunk.size - (maxSize - step) : Int) : ℚ) / step⌉
  numbered : ∀ number window, windows[number]? = some window →
    chunk.IsWindow source maxSize step number windows.length window
  shared : ∀ number left right, windows[number]? = some left → windows[number + 1]? = some right →
    ∃ text : Text, (text.length : Int) = maxSize - step ∧ text <:+ left.content ∧
      text <+: right.content ∧ right.startOffset + (text.length : Int) = left.endOffset
  content_eq : ∃ first others, windows = first :: others ∧
    first.content ++ others.flatMap (·.content.drop (maxSize - step).toNat) = chunk.content

theorem length_windows (source : Text) (overlap : Int) (nameParts : Bool)
    (large : maxSize < chunk.size) :
    (chunk.windows source maxSize overlap nameParts).length =
      (Window.ranges maxSize (Window.step maxSize overlap) (Window.step_pos maxSize overlap)
        chunk.startOffset chunk.endOffset).length := by
  rw [← windows_ranges chunk source overlap nameParts large, List.length_map]

theorem succ_lt_length_windows_iff (source : Text) (overlap : Int) (nameParts : Bool)
    (large : maxSize < chunk.size) (number : Nat) :
    number + 1 < (chunk.windows source maxSize overlap nameParts).length ↔
      chunk.startOffset + number * Window.step maxSize overlap + maxSize < chunk.endOffset := by
  rw [length_windows source overlap nameParts large, Window.succ_lt_length_iff]

theorem range_of_windows (nameParts : Bool) (large : maxSize < chunk.size) {number : Nat}
    {window : Chunk}
    (found : (chunk.windows source maxSize overlap nameParts)[number]? = some window) :
    window.range = Window.place maxSize (Window.step maxSize overlap) chunk.startOffset
      chunk.endOffset number := by
  have placed : (Window.ranges maxSize (Window.step maxSize overlap)
      (Window.step_pos maxSize overlap) chunk.startOffset chunk.endOffset)[number]? =
        some window.range := by
    rw [← windows_ranges chunk source overlap nameParts large, List.getElem?_map, found]
    rfl
  exact Window.eq_place placed

section Places

variable (slice : chunk.IsSlice source) (positive : 1 ≤ maxSize) (nonneg : 0 ≤ overlap)
  (large : maxSize < chunk.size)
include slice positive nonneg large

theorem isSlice_of_windows (nameParts : Bool) :
    ∀ window ∈ chunk.windows source maxSize overlap nameParts, window.IsSlice source := by
  have nonempty : chunk.startOffset < chunk.endOffset := by
    have := slice.size_eq
    omega
  have cut := cutInto_windows nameParts slice.content_eq nonempty positive nonneg large
  exact fun window member => cut.isSlice slice member

theorem isWindow_of_windows (nameParts : Bool) {number : Nat} {window : Chunk}
    (found : (chunk.windows source maxSize overlap nameParts)[number]? = some window) :
    chunk.IsWindow source maxSize (Window.step maxSize overlap) number
      (chunk.windows source maxSize overlap nameParts).length window := by
  have whole := slice.size_eq
  have here := isSlice_of_windows slice positive nonneg large nameParts window
    (List.mem_of_getElem? found)
  have size := here.size_eq
  obtain ⟨start, stop⟩ := Prod.mk.inj (range_of_windows nameParts large found)
  refine ⟨here, start, fun more => ?full, fun last => ?final⟩
  case full =>
    have := (succ_lt_length_windows_iff source overlap nameParts large number).1 more
    rw [Int.min_eq_left (by omega)] at stop
    omega
  case final =>
    have reached := mt (succ_lt_length_windows_iff source overlap nameParts large number).2
      (Nat.not_lt.2 last.ge)
    rw [Int.min_eq_right (by omega)] at stop
    refine ⟨?_, by omega, stop⟩
    cases number with
    | zero => simp only [Int.natCast_zero, Int.zero_mul] at reached; omega
    | succ number =>
        have before := (succ_lt_length_windows_iff source overlap nameParts large number).1
          (List.getElem?_eq_some_iff.1 found).1
        rw [Int.natCast_succ, Int.add_mul] at start
        omega

theorem shared_of_windows (nameParts : Bool) {number : Nat} {left right : Chunk}
    (found : (chunk.windows source maxSize overlap nameParts)[number]? = some left)
    (found' : (chunk.windows source maxSize overlap nameParts)[number + 1]? = some right) :
    ∃ text : Text, (text.length : Int) = maxSize - Window.step maxSize overlap ∧
      text <:+ left.content ∧ text <+: right.content ∧
      right.startOffset + (text.length : Int) = left.endOffset := by
  have first := isWindow_of_windows slice positive nonneg large nameParts found
  have second := isWindow_of_windows slice positive nonneg large nameParts found'
  have full := first.full (List.getElem?_eq_some_iff.1 found').1
  have size := first.slice.size_eq
  have size' := second.slice.size_eq
  have start := first.startOffset_eq
  have start' := second.startOffset_eq
  rw [Int.natCast_succ, Int.add_mul] at start'
  have short := Window.step_le positive nonneg
  have low := first.slice.start_nonneg
  have inside := second.slice.inside
  have reaches : left.endOffset ≤ right.endOffset := by
    rcases Nat.lt_or_ge (number + 2)
      (chunk.windows source maxSize overlap nameParts).length with more | last
    · have := second.full more
      omega
    · have := second.final (Nat.le_antisymm (List.getElem?_eq_some_iff.1 found').1 last)
      omega
  have length : ((source.slice right.startOffset left.endOffset).length : Int) =
      left.endOffset - right.startOffset := Text.length_slice (by omega) (by omega) (by omega)
  refine ⟨source.slice right.startOffset left.endOffset, by omega, ?_, ?_, by omega⟩
  · rw [first.slice.content_eq]
    exact ⟨_, Text.slice_append_slice source low (by omega) (by omega)⟩
  · rw [second.slice.content_eq]
    exact ⟨_, Text.slice_append_slice source (by omega) (by omega) reaches⟩

/-- The first window, and what each later one adds, make up the chunk. -/
theorem content_of_windows (nameParts : Bool) :
    ∃ first others, chunk.windows source maxSize overlap nameParts = first :: others ∧
      first.content ++ others.flatMap
        (·.content.drop (maxSize - Window.step maxSize overlap).toNat) = chunk.content := by
  have whole := slice.size_eq
  have low := slice.start_nonneg
  have short := Window.step_le positive nonneg
  have forward := Window.step_pos maxSize overlap
  have slices := isSlice_of_windows slice positive nonneg large nameParts
  have places := windows_ranges chunk source overlap nameParts large
  rw [Window.ranges, if_neg (by omega)] at places
  obtain ⟨first, others, equal, here, later⟩ := List.map_eq_cons_iff.1 places
  obtain ⟨start, stop⟩ := Prod.mk.inj here
  rw [equal, List.forall_mem_cons] at slices
  refine ⟨first, others, equal, ?_⟩
  have added : others.flatMap (·.content.drop (maxSize - Window.step maxSize overlap).toNat) =
      source.slice (chunk.startOffset + maxSize) chunk.endOffset := by
    rw [show chunk.startOffset + maxSize = chunk.startOffset + (Window.step maxSize overlap : Int) +
        (maxSize - Window.step maxSize overlap) by omega,
      ← Window.flatMap_drop_ranges source forward (by omega) short (by omega), ← later,
      List.flatMap_map]
    refine List.flatMap_congr fun window member => ?_
    rw [(slices.2 window member).content_eq, range]
  rw [added, slices.1.content_eq, start, stop, slice.content_eq]
  exact Text.slice_append_slice source low (by omega) (by omega)

end Places

/-- A chunk that is too large is cut into its windows. They start as far apart as a window is larger
than the overlap, and always one character at least. -/
theorem windowsOf_windows (chunk : Chunk) (source : Text) (nameParts : Bool)
    (slice : chunk.IsSlice source) (positive : 1 ≤ maxSize) (nonneg : 0 ≤ overlap)
    (large : maxSize < chunk.size) :
    chunk.WindowsOf source maxSize (max 1 (maxSize - overlap)).toNat
      (chunk.windows source maxSize overlap nameParts) := by
  rw [← Window.step_eq]
  refine ⟨?length, ?numbered, ?shared, ?content⟩
  case length =>
    have whole := slice.size_eq
    rw [length_windows source overlap nameParts large, Window.length_ranges (by omega), whole]
  case numbered =>
    intro number window found
    exact isWindow_of_windows slice positive nonneg large nameParts found
  case shared =>
    intro number left right found found'
    exact shared_of_windows slice positive nonneg large nameParts found found'
  case content => exact content_of_windows slice positive nonneg large nameParts

/-- Ten letters behind another character. -/
def tenLetters : Chunk where
  kind := .other
  name := "letters".toList
  startLine := 1
  endLine := 1
  startOffset := 1
  endOffset := 11
  content := "abcdefghij".toList

/-- Windows of five letters, each with one letter of the window before it. -/
theorem windowsOf_windows_tenLetters :
    tenLetters.WindowsOf "-abcdefghij".toList 5 4 (tenLetters.windows "-abcdefghij".toList 5 1) ∧
      (tenLetters.windows "-abcdefghij".toList 5 1).map range = [(1, 6), (5, 10), (9, 11)] := by
  have slice : tenLetters.IsSlice "-abcdefghij".toList :=
    ⟨by decide, by decide, by decide, by decide⟩
  constructor
  · exact @windowsOf_windows 5 1 tenLetters _ false slice (by decide) (by decide) (by decide)
  · rw [windows_ranges tenLetters _ 1 false (by decide)]
    decide +kernel

end Chunk

end Segmentation
