import Mathlib.Algebra.Group.Nat.Defs
import Segmentation.Chunk

/-!
# Chunks as slices

What it means that a chunk is an exact slice of its source and that pieces stand for a chunk, and
the bound on the length of a text under which sizes stay within the range of the numbers that are
computed from them.
-/

namespace Segmentation

attribute [ext] Chunk

namespace Text

/-- Whether positions in the text are machine words, as they are in every text that can be held. -/
def Addressable (text : Text) : Prop :=
  text.length < 2 ^ 63

instance (text : Text) : Decidable text.Addressable :=
  inferInstanceAs (Decidable (_ < _))

/-- A text that neither starts nor ends with a newline. -/
def BareEnds (text : Text) : Prop :=
  text.head? ≠ some '\n' ∧ text.getLast? ≠ some '\n'

instance (text : Text) : Decidable text.BareEnds :=
  inferInstanceAs (Decidable (_ ∧ _))

theorem length_slice_le (text : Text) {start stop : Int} (ordered : start ≤ stop) :
    ((text.slice start stop).length : Int) ≤ stop - start := by
  have low : (clamp text.length stop : Int) - clamp text.length start ≤ stop - start := by
    simp only [clamp]
    split <;> split <;> omega
  simp only [slice, List.length_take, List.length_drop]
  omega

theorem length_slice_le_length (text : Text) (start stop : Int) :
    (text.slice start stop).length ≤ text.length := by
  simp only [slice, List.length_take, List.length_drop]
  omega

theorem Addressable.of_slice {source text : Text} {start stop : Int} (short : source.Addressable)
    (slice : text = source.slice start stop) : text.Addressable := by
  rw [slice]
  exact Nat.lt_of_le_of_lt (length_slice_le_length source start stop) short

/-- Between positions of the text, a slice holds exactly what its bounds are apart. -/
theorem length_slice {text : Text} {start stop : Int} (nonneg : 0 ≤ start) (ordered : start ≤ stop)
    (inside : stop ≤ text.length) : ((text.slice start stop).length : Int) = stop - start := by
  obtain ⟨first, rfl⟩ := Int.eq_ofNat_of_zero_le nonneg
  obtain ⟨last, rfl⟩ := Int.eq_ofNat_of_zero_le (Int.le_trans nonneg ordered)
  rw [slice_natCast, List.length_take, List.length_drop]
  omega

/-- Text in front of a text moves its slices. -/
theorem slice_append (before text : Text) {start stop : Int} (start_nonneg : 0 ≤ start)
    (stop_nonneg : 0 ≤ stop) :
    (before ++ text).slice (start + before.length) (stop + before.length) =
      text.slice start stop := by
  obtain ⟨first, rfl⟩ := Int.eq_ofNat_of_zero_le start_nonneg
  obtain ⟨last, rfl⟩ := Int.eq_ofNat_of_zero_le stop_nonneg
  rw [← Int.natCast_add, ← Int.natCast_add, slice_natCast, slice_natCast, Nat.add_comm first,
    List.drop_length_add_append]
  congr 1
  omega

theorem slice_append_slice (text : Text) {first second third : Int} (nonneg : 0 ≤ first)
    (ordered : first ≤ second) (ordered' : second ≤ third) :
    text.slice first second ++ text.slice second third = text.slice first third := by
  obtain ⟨start, rfl⟩ := Int.eq_ofNat_of_zero_le nonneg
  obtain ⟨middle, rfl⟩ := Int.le.dest ordered
  obtain ⟨last, rfl⟩ := Int.le.dest ordered'
  simp only [← Int.natCast_add, slice_natCast, Nat.add_sub_cancel_left]
  rw [← List.drop_drop, Nat.add_assoc, Nat.add_sub_cancel_left, List.take_add]

theorem getLast?_slice {text : Text} {start stop : Nat} (filled : start < stop)
    (inside : stop ≤ text.length) : (text.slice start stop).getLast? = text[stop - 1]? := by
  have length : (text.slice start stop).length = stop - start := by
    rw [slice_natCast, List.length_take, List.length_drop]
    omega
  rw [List.getLast?_eq_getElem?, length, slice_natCast, List.getElem?_take, if_pos (by omega),
    List.getElem?_drop]
  congr 1
  omega

end Text

/-- What does not depend on the index of a part can be read off what the part is made from. -/
theorem map_mapIdx {α β γ : Type} {values : List α} {image : Nat → α → β} {view : β → γ}
    (shape : α → γ) (agree : ∀ index value, view (image index value) = shape value) :
    (values.mapIdx image).map view = values.map shape := by
  apply List.ext_getElem?
  intro index
  cases found : values[index]? <;> simp [List.getElem?_mapIdx, found, agree]

/-- When the part made from each image is the image of the part made from the value, so are all
parts. -/
theorem mapIdx_map_eq {α α' β β' : Type} {values : List α} {image : α → α'} {image' : β → β'}
    {make : Nat → α → β} {make' : Nat → α' → β'}
    (agree : ∀ index, ∀ value ∈ values, make' index (image value) = image' (make index value)) :
    (values.map image).mapIdx make' = (values.mapIdx make).map image' := by
  apply List.ext_getElem?
  intro index
  cases found : values[index]? with
  | none => simp [List.getElem?_mapIdx, found]
  | some value =>
      simp [List.getElem?_mapIdx, found, agree index value (List.mem_of_getElem? found)]

namespace Chunk

/-- A chunk that stands for the characters of its source between its offsets. -/
structure IsSlice (source : Text) (chunk : Chunk) : Prop where
  start_nonneg : 0 ≤ chunk.startOffset
  ordered : chunk.startOffset ≤ chunk.endOffset
  inside : chunk.endOffset ≤ source.length
  content_eq : chunk.content = source.slice chunk.startOffset chunk.endOffset

theorem IsSlice.size_eq {source : Text} {chunk : Chunk} (slice : chunk.IsSlice source) :
    (chunk.size : Int) = chunk.endOffset - chunk.startOffset := by
  rw [size, slice.content_eq]
  exact Text.length_slice slice.start_nonneg slice.ordered slice.inside

/-- Where a chunk stands in its source. -/
def range (chunk : Chunk) : Int × Int :=
  (chunk.startOffset, chunk.endOffset)

/-- A chunk that holds a slice of the source is no larger than its offsets are apart. -/
theorem size_le_of_content_eq {chunk : Chunk} {source : Text}
    (slice : chunk.content = source.slice chunk.startOffset chunk.endOffset)
    (ordered : chunk.startOffset ≤ chunk.endOffset) :
    (chunk.size : Int) ≤ chunk.endOffset - chunk.startOffset := by
  rw [size, slice]
  exact Text.length_slice_le source ordered

/-- A chunk that is no part of another one. -/
structure IsWhole (chunk : Chunk) : Prop where
  isPartial : chunk.isPartial = false
  partNumber : chunk.partNumber = 0
  totalParts : chunk.totalParts = 1
  parentName : chunk.parentName = none
  heading : chunk.heading = []

theorem isWhole_wholeSource (kind : ChunkKind) (name : String) (source : Text) :
    (wholeSource kind name source).IsWhole :=
  ⟨rfl, rfl, rfl, rfl, rfl⟩

theorem isSlice_wholeSource (kind : ChunkKind) (name : String) (source : Text) :
    (wholeSource kind name source).IsSlice source where
  start_nonneg := Int.le_refl 0
  ordered := Int.natCast_nonneg _
  inside := Int.le_refl _
  content_eq := by
    change source = source.slice ((0 : Nat) : Int) (source.length : Nat)
    rw [Text.slice_natCast]
    simp

/-- A chunk that holds all of its source. -/
structure HoldsAll (source : Text) (chunk : Chunk) : Prop where
  startOffset_eq : chunk.startOffset = 0
  endOffset_eq : chunk.endOffset = source.length
  content_eq : chunk.content = source

theorem holdsAll_wholeSource (kind : ChunkKind) (name : String) (source : Text) :
    (wholeSource kind name source).HoldsAll source :=
  ⟨rfl, rfl, rfl⟩

/-! ## Pieces of a chunk -/

/-- Pieces that stand for a chunk without loss: there is one, each holds something of the chunk, and
each character that ends no line lies in one of them. -/
structure CoveredBy (chunk : Chunk) (pieces : List Chunk) : Prop where
  nonempty : pieces ≠ []
  inside : ∀ piece ∈ pieces, chunk.startOffset ≤ piece.startOffset ∧
    piece.startOffset < piece.endOffset ∧ piece.endOffset ≤ chunk.endOffset
  covered : ∀ (position : Nat) (character : Char), chunk.content[position]? = some character →
    character ≠ '\n' → ∃ piece ∈ pieces,
      piece.startOffset ≤ chunk.startOffset + position ∧
        chunk.startOffset + position < piece.endOffset

/-- Pieces that a chunk is cut into: slices of the source that are small enough, each starting after
the one before it. -/
structure CutInto (chunk : Chunk) (source : Text) (maxSize : Int) (pieces : List Chunk) : Prop
    extends CoveredBy chunk pieces where
  content_eq : ∀ piece ∈ pieces, piece.content = source.slice piece.startOffset piece.endOffset
  size_le : ∀ piece ∈ pieces, (piece.size : Int) ≤ maxSize
  starts_increase : pieces.Pairwise fun left right => left.startOffset < right.startOffset

variable {chunk : Chunk} {source : Text} {maxSize : Int}

theorem cutInto_self (slice : chunk.content = source.slice chunk.startOffset chunk.endOffset)
    (nonempty : chunk.startOffset < chunk.endOffset) (small : chunk.size ≤ maxSize) :
    chunk.CutInto source maxSize [chunk] where
  nonempty := List.cons_ne_nil chunk []
  inside := by
    intro piece member
    obtain rfl := List.mem_singleton.1 member
    exact ⟨Int.le_refl _, nonempty, Int.le_refl _⟩
  covered := by
    intro position character found _
    have inside : position < chunk.size := (List.getElem?_eq_some_iff.1 found).1
    have within := size_le_of_content_eq slice (Int.le_of_lt nonempty)
    exact ⟨chunk, List.mem_cons_self, by omega, by omega⟩
  content_eq := by
    intro piece member
    obtain rfl := List.mem_singleton.1 member
    exact slice
  size_le := by
    intro piece member
    obtain rfl := List.mem_singleton.1 member
    exact small
  starts_increase := List.pairwise_singleton _ _

/-- Slices of the source are pieces that a chunk is cut into when their ranges are as those of
pieces have to be. -/
theorem cutInto_of_ranges {pieces : List Chunk} {ranges : List (Int × Int)}
    (places : pieces.map range = ranges)
    (content : ∀ piece ∈ pieces, piece.content = source.slice piece.startOffset piece.endOffset)
    (notEmpty : ranges ≠ [])
    (bounds : ∀ place ∈ ranges, chunk.startOffset ≤ place.1 ∧ place.1 < place.2 ∧
      place.2 ≤ chunk.endOffset ∧ place.2 - place.1 ≤ maxSize)
    (covered : ∀ (position : Nat) (character : Char), chunk.content[position]? = some character →
      character ≠ '\n' → ∃ place ∈ ranges,
        place.1 ≤ chunk.startOffset + position ∧ chunk.startOffset + position < place.2)
    (increase : ranges.Pairwise fun left right => left.1 < right.1) :
    chunk.CutInto source maxSize pieces := by
  subst places
  rw [List.pairwise_map] at increase
  have each (piece : Chunk) (member : piece ∈ pieces) :=
    bounds piece.range (List.mem_map_of_mem member)
  refine ⟨⟨?nonempty, ?inside, ?covered⟩, content, ?small, increase⟩
  case nonempty =>
    intro none
    exact notEmpty (List.map_eq_nil_iff.2 none)
  case inside =>
    intro piece member
    obtain ⟨low, filled, high, -⟩ := each piece member
    exact ⟨low, filled, high⟩
  case covered =>
    intro position character found inLine
    obtain ⟨place, member, holds⟩ := covered position character found inLine
    obtain ⟨piece, here, rfl⟩ := List.mem_map.1 member
    exact ⟨piece, here, holds⟩
  case small =>
    intro piece member
    obtain ⟨-, filled, -, size⟩ := each piece member
    exact Int.le_trans (size_le_of_content_eq (content piece member) (Int.le_of_lt filled)) size

/-- What pieces of a slice of the source stand for is a slice of the source, too. -/
theorem CutInto.isSlice {pieces : List Chunk} {piece : Chunk}
    (cut : chunk.CutInto source maxSize pieces) (slice : chunk.IsSlice source)
    (member : piece ∈ pieces) : piece.IsSlice source := by
  obtain ⟨low, filled, high⟩ := cut.inside piece member
  have first := slice.start_nonneg
  have last := slice.inside
  exact ⟨by omega, by omega, by omega, cut.content_eq piece member⟩

/-- When a chunk does not begin with a newline, one of its pieces begins where it does. -/
theorem CoveredBy.exists_start_eq {pieces : List Chunk} {character : Char}
    (covered : chunk.CoveredBy pieces) (first : chunk.content[0]? = some character)
    (inLine : character ≠ '\n') : ∃ piece ∈ pieces, piece.startOffset = chunk.startOffset := by
  obtain ⟨piece, member, low, -⟩ := covered.covered 0 character first inLine
  have := (covered.inside piece member).1
  exact ⟨piece, member, by omega⟩

end Chunk

end Segmentation
