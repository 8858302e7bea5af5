import Mathlib.Data.List.Nodup
import Segmentation.Indentation.Declarations
import Segmentation.Proofs.Chunk
import Segmentation.Proofs.Indentation.Block
import Segmentation.Proofs.Indentation.Header
import Segmentation.Proofs.Text.Lines

/-!
# Chunks of indented declarations

A declaration starts where its header does and ends with a line behind the header's colon, so its
chunk is a slice that holds at least the header up to the colon. Chunks come by ascending start.
-/

namespace Segmentation.Indentation

/-! ## Blocks -/

/-- A block whose body follows a line of a source ends with the end of that line or behind it. -/
theorem lineEnd_blockEnd {source : Text} {line : Nat} (baseIndent : Int)
    (inside : line < source.lines.length) :
    Text.lineOffset source.lines (line + 1) ≤ (LineTable.ofText source).lineEnd
        (blockEnd (LineTable.ofText source).lines (line + 1) baseIndent).toNat + 1 ∧
      (LineTable.ofText source).lineEnd
        (blockEnd (LineTable.ofText source).lines (line + 1) baseIndent).toNat ≤
        source.length := by
  change _ ≤ (LineTable.ofText source).lineEnd (blockEnd source.lines (line + 1) baseIndent).toNat +
    1 ∧ (LineTable.ofText source).lineEnd (blockEnd source.lines (line + 1) baseIndent).toNat ≤ _
  obtain ⟨first, last⟩ :=
    blockEnd_bounds baseIndent (show line + 1 ≤ source.lines.length from inside)
  obtain ⟨lastLine, equal⟩ := Int.eq_ofNat_of_zero_le
    (show 0 ≤ blockEnd source.lines (line + 1) baseIndent by omega)
  rw [equal] at first last ⊢
  rw [Int.toNat_natCast]
  have lineEnd := LineTable.lineEnd_eq (show lastLine < source.lines.length by omega)
  have low := Text.lineOffset_le source.lines (show line + 1 ≤ lastLine + 1 by omega)
  have high := Text.lineOffset_le source.lines (show lastLine + 1 ≤ source.lines.length by omega)
  rw [Text.lineOffset_lines] at high
  omega

/-! ## Chunks of headers -/

/-- A chunk that stands for a declaration: it holds something of its source, and its first character
is not a newline. -/
structure Declares (source : Text) (chunk : Chunk) : Prop where
  slice : chunk.IsSlice source
  nonempty : chunk.startOffset < chunk.endOffset
  first_ne_newline : ∃ character, chunk.content[0]? = some character ∧ character ≠ '\n'

/-- The chunk of a header runs from the start of the header to the end of a line at or behind the
header's colon. -/
theorem declares_chunkOf {source : Text} {located : LocatedHeader} (header : located.In source) :
    Declares source (chunkOf source (LineTable.ofText source) located) := by
  have long := header.two_le_length
  have within := header.stop_le
  have stop_eq : located.stop = located.offset + located.header.length := rfl
  obtain ⟨inside, -, colon⟩ :=
    LineTable.lineOf_bounds (show located.stop - 1 ≤ source.length by omega)
  obtain ⟨low, high⟩ := lineEnd_blockEnd
    (indentWidth ((LineTable.ofText source).line
      ((LineTable.ofText source).lineOf located.nameOffset))) inside
  obtain ⟨stop, equal⟩ : ∃ stop : Nat,
      (chunkOf source (LineTable.ofText source) located).endOffset = (stop : Int) ∧
      located.offset < stop ∧ stop ≤ source.length := by
    exact ⟨_, rfl, by omega, by omega⟩
  obtain ⟨endEqual, filled, stopInside⟩ := equal
  have start :
      (chunkOf source (LineTable.ofText source) located).startOffset = located.offset := rfl
  have slice : (chunkOf source (LineTable.ofText source) located).IsSlice source := by
    refine ⟨?_, ?_, ?_, rfl⟩
    · rw [start]
      exact Int.natCast_nonneg _
    · rw [start, endEqual]
      omega
    · rw [endEqual]
      omega
  refine ⟨slice, by omega, ?_⟩
  obtain ⟨character, found, notNewline⟩ := header.first_ne_newline
  refine ⟨character, ?_, notNewline⟩
  rw [slice.content_eq, start, endEqual, Text.slice_natCast, List.getElem?_take, if_pos (by omega),
    List.getElem?_drop]
  exact found

/-! ## Chunks of a source -/

theorem in_of_mem_allHeaders {source : Text} {located : LocatedHeader}
    (member : located ∈ allHeaders source) : located.In source := by
  rcases List.mem_append.1 member with ofFunction | ofClass
  · exact in_of_mem_headers ofFunction
  · exact in_of_mem_headers ofClass

theorem chunks_of_nil {source : Text} (noHeaders : allHeaders source = []) :
    chunks source = [Chunk.wholeSource .wholeModule "module" source] := by
  unfold chunks
  rw [noHeaders]
  rfl

theorem chunks_perm {source : Text} (hasHeaders : allHeaders source ≠ []) :
    (chunks source).Perm
      ((allHeaders source).map (chunkOf source (LineTable.ofText source))) := by
  unfold chunks
  split
  · next noHeaders => exact absurd (List.map_eq_nil_iff.1 noHeaders) hasHeaders
  · exact List.mergeSort_perm _ _

theorem mem_chunks_iff {source : Text} {chunk : Chunk} (hasHeaders : allHeaders source ≠ []) :
    chunk ∈ chunks source ↔
      ∃ located ∈ allHeaders source, chunkOf source (LineTable.ofText source) located = chunk :=
  (chunks_perm hasHeaders).mem_iff.trans List.mem_map

theorem mem_chunks_cases {source : Text} {chunk : Chunk} (member : chunk ∈ chunks source) :
    chunk = Chunk.wholeSource .wholeModule "module" source ∨
      ∃ located, located.In source ∧ chunkOf source (LineTable.ofText source) located = chunk := by
  rcases Decidable.em (allHeaders source = []) with noHeaders | hasHeaders
  · rw [chunks_of_nil noHeaders] at member
    exact .inl (List.mem_singleton.1 member)
  · obtain ⟨located, found, made⟩ := (mem_chunks_iff hasHeaders).1 member
    exact .inr ⟨located, in_of_mem_allHeaders found, made⟩

/-- The chunks of a source declare something in it, unless it declares nothing and there is one
chunk for all of it. -/
theorem chunks_cases (source : Text) :
    chunks source = [Chunk.wholeSource .wholeModule "module" source] ∨
      chunks source ≠ [] ∧ ∀ chunk ∈ chunks source, Declares source chunk := by
  rcases Decidable.em (allHeaders source = []) with noHeaders | hasHeaders
  · exact .inl (chunks_of_nil noHeaders)
  · refine .inr ⟨fun noChunks => ?_, fun chunk member => ?_⟩
    · have perm := chunks_perm hasHeaders
      exact hasHeaders (List.map_eq_nil_iff.1 (noChunks ▸ perm).symm.eq_nil)
    · obtain ⟨located, found, rfl⟩ := (mem_chunks_iff hasHeaders).1 member
      exact declares_chunkOf (in_of_mem_allHeaders found)

theorem chunks_sorted (source : Text) :
    (chunks source).Pairwise fun left right => left.startOffset ≤ right.startOffset := by
  unfold chunks
  split
  · exact List.pairwise_singleton _ _
  · refine (List.pairwise_mergeSort ?_ ?_ _).imp fun ordered => of_decide_eq_true ordered
    · intro first second third before after
      simp only [decide_eq_true_eq] at before after ⊢
      omega
    · intro first second
      simp only [Bool.or_eq_true, decide_eq_true_eq]
      omega

/-- Chunks of all headers that come by ascending start, no two from the same one, are the chunks of
the source. -/
theorem chunks_eq {source : Text} {declared : List Chunk}
    (perm : declared.Perm ((allHeaders source).map (chunkOf source (LineTable.ofText source))))
    (notEmpty : declared ≠ [])
    (increase : declared.Pairwise fun left right => left.startOffset < right.startOffset) :
    chunks source = declared := by
  have starts : (declared.map (·.startOffset)).Nodup :=
    List.pairwise_map.2 (increase.imp fun before => Int.ne_of_lt before)
  have same : (chunks source).Perm declared := by
    refine (chunks_perm ?_).trans perm.symm
    intro noHeaders
    rw [noHeaders, List.map_nil] at perm
    exact notEmpty perm.eq_nil
  refine List.Perm.eq_of_pairwise ?_ (chunks_sorted source)
    (increase.imp fun before => Int.le_of_lt before) same
  intro left right leftMember rightMember before after
  exact List.inj_on_of_nodup_map starts (same.mem_iff.1 leftMember) rightMember
    (Int.le_antisymm before after)

end Segmentation.Indentation
