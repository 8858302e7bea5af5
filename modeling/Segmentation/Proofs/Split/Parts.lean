import Segmentation.Proofs.Split.Coverage
import Segmentation.Proofs.Text.Marks

/-!
# The parts of a chunk

The parts of a chunk are numbered from zero and all say the same of it. Only the first one keeps the
documentation, and only the later ones have a heading, which is one line. Whichever way a chunk is
cut there are at least two parts, the first starts where the chunk does and the last one ends where
it does. Cutting by lines leaves an empty line out, so for this way the chunk must neither start nor
end with a newline.
-/

namespace Segmentation

namespace Split

/-- What may stand in front of a later part: nothing, or one line with its newline. -/
def IsHeading (heading : Text) : Prop :=
  heading = [] ∨ ∃ line, '\n' ∉ line ∧ heading = line ++ ['\n']

theorem isHeading_heading (signature : Option Text) (family : Family) :
    IsHeading (heading signature family) := by
  unfold heading
  split
  · exact .inl rfl
  · exact .inl rfl
  · next signature _ =>
      refine .inr ⟨_, ?_, rfl⟩
      have line : '\n' ∉ signature.before "\n" := by
        rw [Text.before_character rfl]
        intro inside
        exact absurd (List.mem_takeWhile_imp inside) (by decide)
      have opening : '\n' ∉ (bodyOpening family).toList := by
        cases family <;> decide
      rw [List.mem_append]
      rintro (inside | inside)
      · rw [Text.trimEnd, List.mem_reverse] at inside
        have inside' := List.mem_reverse.1 ((List.dropWhile_sublist _).mem inside)
        split at inside'
        · exact line (List.mem_of_mem_take inside')
        · exact line inside'
      · exact opening inside

end Split

namespace Chunk

/-- One of `total` parts of a chunk, with what it says of the chunk. -/
structure IsPart (chunk : Chunk) (number total : Nat) (heading : Text) (part : Chunk) : Prop where
  isPartial : part.isPartial = true
  partNumber : part.partNumber = number
  totalParts : part.totalParts = total
  parent_of_named : ∀ parent, chunk.parentName = some parent → parent ≠ [] →
    part.parentName = some parent
  parent_of_unnamed : chunk.parentName = none ∨ chunk.parentName = some [] →
    part.parentName = some chunk.name
  kind : part.kind = chunk.kind
  signature : part.signature = chunk.signature
  decorators : part.decorators = chunk.decorators
  isAsync : part.isAsync = chunk.isAsync
  isGenerator : part.isGenerator = chunk.isGenerator
  isExported : part.isExported = chunk.isExported
  docComment : part.docComment = if number = 0 then chunk.docComment else none
  heading : part.heading = if number = 0 then [] else heading

/-- All parts of a chunk, from the first to the last. -/
structure PartsOf (chunk : Chunk) (parts : List Chunk) : Prop where
  two_le_length : 2 ≤ parts.length
  numbered : ∃ heading, Split.IsHeading heading ∧ ∀ number part, parts[number]? = some part →
    chunk.IsPart number parts.length heading part
  starts : parts.head?.map (·.startOffset) = some chunk.startOffset
  ends : parts.getLast?.map (·.endOffset) = some chunk.endOffset

variable {chunk : Chunk} {source : Text} {maxSize : Int} {pieces : List Chunk}

theorem parentOfParts_of_named {parent : Text} (named : chunk.parentName = some parent)
    (filled : parent ≠ []) : chunk.parentOfParts = parent := by
  obtain ⟨character, rest, rfl⟩ := List.exists_cons_of_ne_nil filled
  rw [parentOfParts, named]

theorem parentOfParts_of_unnamed (unnamed : chunk.parentName = none ∨ chunk.parentName = some []) :
    chunk.parentOfParts = chunk.name := by
  rcases unnamed with none | empty
  · rw [parentOfParts, none]
  · rw [parentOfParts, empty]

theorem isPart_part (chunk : Chunk) (source heading : Text) (number total : Nat)
    (startLine endLine startOffset endOffset : Int) :
    chunk.IsPart number total heading
      (chunk.part source number total startLine endLine startOffset endOffset heading) where
  isPartial := rfl
  partNumber := rfl
  totalParts := rfl
  parent_of_named _ named filled := congrArg some (parentOfParts_of_named named filled)
  parent_of_unnamed unnamed := congrArg some (parentOfParts_of_unnamed unnamed)
  kind := rfl
  signature := rfl
  decorators := rfl
  isAsync := rfl
  isGenerator := rfl
  isExported := rfl
  docComment := rfl
  heading := rfl

theorem IsPart.renamed {number total : Nat} {heading : Text} {part : Chunk}
    (isPart : chunk.IsPart number total heading part) (name : Text) :
    chunk.IsPart number total heading { part with name } := by
  obtain ⟨isPartial, partNumber, totalParts, named, unnamed, kind, signature, decorators, isAsync,
    isGenerator, isExported, docComment, heading⟩ := isPart
  exact ⟨isPartial, partNumber, totalParts, named, unnamed, kind, signature, decorators, isAsync,
    isGenerator, isExported, docComment, heading⟩

/-- Small pieces that reach from one end of a large chunk to the other are at least two. -/
theorem CutInto.partsOf (cut : chunk.CutInto source maxSize pieces) (slice : chunk.IsSlice source)
    (large : maxSize < chunk.size)
    (numbered : ∃ heading, Split.IsHeading heading ∧ ∀ number part, pieces[number]? = some part →
      chunk.IsPart number pieces.length heading part)
    (starts : pieces.head?.map (·.startOffset) = some chunk.startOffset)
    (ends : pieces.getLast?.map (·.endOffset) = some chunk.endOffset) : chunk.PartsOf pieces := by
  refine ⟨?_, numbered, starts, ends⟩
  match pieces, cut, starts, ends with
  | [], _, starts, _ => exact absurd starts (by simp)
  | [piece], cut, starts, ends =>
      have whole := (cut.isSlice slice List.mem_cons_self).size_eq
      have small := cut.size_le piece List.mem_cons_self
      simp only [List.head?_cons, List.getLast?_singleton, Option.map_some,
        Option.some.injEq] at starts ends
      rw [starts, ends, ← slice.size_eq] at whole
      omega
  | _ :: _ :: others, _, _, _ => simp

end Chunk

/-! ## Windows -/

namespace Window

variable (maxSize start stop : Int) {step : Nat} (forward : 0 < step)

theorem head?_ranges :
    (ranges maxSize step forward start stop).head?.map (·.1) = some start := by
  rw [ranges]
  split <;> rfl

theorem getLast?_ranges :
    (ranges maxSize step forward start stop).getLast?.map (·.2) = some stop := by
  fun_induction ranges maxSize step forward start stop with
  | case1 start last => rfl
  | case2 start more ih => rwa [List.getLast?_cons_of_ne_nil ranges_ne_nil]

end Window

namespace Chunk

variable {chunk : Chunk} {source : Text} {maxSize overlap : Int}

theorem partsOf_windows (nameParts : Bool) (slice : chunk.IsSlice source) (nonneg : 0 ≤ overlap)
    (less : overlap < maxSize) (large : maxSize < chunk.size) :
    chunk.PartsOf (chunk.windows source maxSize overlap nameParts) := by
  have nonempty : chunk.startOffset < chunk.endOffset := by
    have := slice.size_eq
    omega
  have places := windows_ranges chunk source overlap nameParts large
  refine (cutInto_windows nameParts slice.content_eq nonempty (by omega) nonneg large).partsOf slice
    large ⟨[], .inl rfl, ?_⟩ ?_ ?_
  · intro number part found
    rw [windows, if_neg (by omega)] at found ⊢
    rw [List.getElem?_mapIdx] at found
    obtain ⟨⟨start, stop⟩, -, rfl⟩ := Option.map_eq_some_iff.1 found
    rw [List.length_mapIdx]
    exact (isPart_part chunk source [] number _ _ _ _ _).renamed _
  · have first := Window.head?_ranges maxSize chunk.startOffset chunk.endOffset
      (Window.step_pos maxSize overlap)
    rwa [← places, List.head?_map, Option.map_map] at first
  · have last := Window.getLast?_ranges maxSize chunk.startOffset chunk.endOffset
      (Window.step_pos maxSize overlap)
    rwa [← places, List.getLast?_map, Option.map_map] at last

end Chunk

/-! ## Lines -/

namespace Split.Layout

variable {layout : Layout} {current : Nat} {ranges : List (Nat × Nat)}

theorem Plan.head?_eq (plan : layout.Plan current ranges) (inside : current < layout.count)
    (filled : 0 < layout.span current (current + 1)) :
    ranges.head?.map (·.1) = some current := by
  cases plan with
  | rest fits =>
      have all : layout.span current (current + 1) ≤ layout.span current layout.count :=
        span_le_span (Nat.le_refl current) inside
      rw [if_pos (by omega)]
      rfl
  | @cut _ limit split others made further =>
      have part : layout.span current (current + 1) ≤ layout.span current split :=
        span_le_span (Nat.le_refl current) made.current_lt
      rw [if_pos (by omega)]
      rfl

theorem Plan.getLast?_eq (plan : layout.Plan current ranges) (formed : layout.WellFormed)
    (inside : current < layout.count)
    (filled : 0 < layout.span (layout.count - 1) layout.count) :
    ranges.getLast?.map (·.2) = some layout.count := by
  induction plan with
  | @rest current fits =>
      have all : layout.span (layout.count - 1) layout.count ≤ layout.span current layout.count :=
        span_le_span (by omega) (Nat.le_refl layout.count)
      rw [if_pos (by omega)]
      rfl
  | @cut current limit split others made further ih =>
      have next_lt := Nat.lt_of_le_of_lt (formed.next_le made) made.split_lt
      have later := ih next_lt
      split
      · have notEmpty : others ≠ [] := by
          rintro rfl
          exact absurd later (by simp)
        rwa [List.getLast?_cons_of_ne_nil notEmpty]
      · exact later

end Split.Layout

namespace Chunk

variable {chunk : Chunk} {source : Text} {maxSize overlap : Int} {preserveSignatures : Bool}
  {family : Family} {pieces : List Chunk}

/-- A line holds something if a character of it is no newline. -/
theorem exists_span_pos {layout : Split.Layout} (sameLines : layout.lines = chunk.content.lines)
    {position : Nat} {character : Char} (found : chunk.content[position]? = some character)
    (inLine : character ≠ '\n') :
    ∃ line < layout.count, Text.lineOffset layout.lines line ≤ position ∧
      position + 1 < Text.lineOffset layout.lines (line + 1) ∧
      0 < layout.span line (line + 1) := by
  rw [← Text.joinLines_lines chunk.content, ← sameLines] at found
  obtain ⟨line, inside, low, high⟩ := Text.exists_line_of_ne_newline found inLine
  refine ⟨line, inside, low, high, ?_⟩
  simp only [Split.Layout.span]
  omega

theorem span_first_pos {layout : Split.Layout} (sameLines : layout.lines = chunk.content.lines)
    (filled : chunk.content ≠ []) (first : chunk.content.head? ≠ some '\n') :
    0 < layout.span 0 1 := by
  obtain ⟨character, others, content⟩ := List.exists_cons_of_ne_nil filled
  rw [content, List.head?_cons] at first
  obtain ⟨line, inside, low, high, span⟩ := exists_span_pos sameLines
    (show chunk.content[0]? = some character by rw [content]; rfl)
    fun newline => first (congrArg some newline)
  rcases Nat.eq_zero_or_pos line with rfl | later
  · exact span
  · have := Text.lineOffset_lt later (Nat.le_of_lt inside)
    rw [Text.lineOffset_zero] at this
    omega

theorem span_last_pos {layout : Split.Layout} (sameLines : layout.lines = chunk.content.lines)
    (filled : chunk.content ≠ []) (last : chunk.content.getLast? ≠ some '\n') :
    0 < layout.span (layout.count - 1) layout.count := by
  have length := List.length_pos_iff.2 filled
  have whole : Text.lineOffset layout.lines layout.count = chunk.content.length + 1 := by
    rw [Split.Layout.count, sameLines, Text.lineOffset_lines]
  rw [List.getLast?_eq_getElem?] at last
  cases found : chunk.content[chunk.content.length - 1]? with
  | none => exact absurd (List.getElem?_eq_none_iff.1 found) (by omega)
  | some character =>
      rw [found] at last
      obtain ⟨line, inside, low, high, span⟩ := exists_span_pos sameLines found
        fun newline => last (congrArg some newline)
      rcases Nat.lt_or_ge (line + 1) layout.count with earlier | reached
      · have before : Text.lineOffset layout.lines (line + 1) <
            Text.lineOffset layout.lines layout.count :=
          Text.lineOffset_lt earlier (Nat.le_refl layout.lines.length)
        omega
      · have count : layout.count = line + 1 := by omega
        rwa [count, Nat.add_sub_cancel]

/-- The pieces of a plan are the parts of a chunk that has no newline at its ends. -/
theorem partsOf_pieces {layout : Split.Layout} {ranges : List (Nat × Nat)} {heading : Text}
    (isHeading : Split.IsHeading heading) (slice : chunk.IsSlice source)
    (bare : chunk.content.BareEnds) (positive : 1 ≤ maxSize) (large : maxSize < chunk.size)
    (formed : layout.WellFormed) (sameLines : layout.lines = chunk.content.lines)
    (sameSize : layout.maxSize = maxSize) (plan : layout.Plan 0 ranges) :
    chunk.PartsOf (Split.pieces chunk source layout.starts heading ranges) := by
  have size := slice.size_eq
  have filled : chunk.content ≠ [] := by
    intro empty
    have : chunk.size = 0 := by rw [Chunk.size, empty]; rfl
    omega
  have count_pos : 0 < layout.count := by
    rw [Split.Layout.count, sameLines]
    exact Text.length_lines_pos _
  have whole : Text.lineOffset layout.lines layout.count = chunk.size + 1 := by
    rw [Split.Layout.count, sameLines, Text.lineOffset_lines]
    rfl
  have places := Split.pieces_ranges chunk source heading formed plan.inside
  refine (cutInto_pieces heading slice.content_eq (by omega) positive large formed sameLines
    sameSize plan).partsOf slice large ⟨heading, isHeading, ?_⟩ ?_ ?_
  · intro number part found
    rw [Split.pieces, List.getElem?_mapIdx] at found
    obtain ⟨range, -, rfl⟩ := Option.map_eq_some_iff.1 found
    rw [Split.pieces, List.length_mapIdx]
    exact isPart_part chunk source heading number _ _ _ _ _
  · obtain ⟨first, head, start⟩ := Option.map_eq_some_iff.1
      (plan.head?_eq count_pos (span_first_pos sameLines filled bare.1))
    have place : ((Split.pieces chunk source layout.starts heading ranges).map range).head?.map
        (·.1) = some chunk.startOffset := by
      rw [places, List.head?_map, head]
      simp [Split.rangeAt, start]
    rwa [List.head?_map, Option.map_map] at place
  · obtain ⟨last, final, stop⟩ := Option.map_eq_some_iff.1
      (plan.getLast?_eq formed count_pos (span_last_pos sameLines filled bare.2))
    have place : ((Split.pieces chunk source layout.starts heading ranges).map range).getLast?.map
        (·.2) = some chunk.endOffset := by
      rw [places, List.getLast?_map, final]
      simp only [Option.map_some, Split.rangeAt, stop, whole]
      rw [Option.some.injEq]
      omega
    rwa [List.getLast?_map, Option.map_map] at place

/-- However a chunk that is too large is split, the pieces are its parts. -/
theorem SplitInto.partsOf
    (into : SplitInto chunk source maxSize overlap preserveSignatures family pieces)
    (slice : chunk.IsSlice source) (bare : chunk.content.BareEnds) (nonneg : 0 ≤ overlap)
    (less : overlap < maxSize) (large : maxSize < chunk.size) : chunk.PartsOf pieces := by
  cases into with
  | whole small => exact absurd small (Int.not_le.2 large)
  | windows _ tooLong => exact partsOf_windows false slice nonneg less large
  | lines _ layoutOf formed sameLines sameSize plan =>
      refine partsOf_pieces ?_ slice bare (by omega) large formed sameLines sameSize plan
      split
      · exact Split.isHeading_heading chunk.signature family
      · exact .inl rfl

end Chunk

end Segmentation
