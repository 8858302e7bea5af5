import Segmentation.Proofs.Indentation.Extent

/-!
# Nested declarations

A declaration that starts within another one should end within it. The body of the inner one cannot
get in the way, since it is indented deeper than the inner name and thus deeper than the outer one.
Its header can: the lines of a header that goes on over several lines may be indented as they like,
and to the outer declaration they are lines of its block. So chunks are nested exactly when headers
keep to the blocks around them.
-/

namespace Segmentation.Indentation

/-- Chunks of which any two are disjoint or one within the other: what starts in the range of a
chunk ends in it. -/
def Nested (chunks : List Chunk) : Prop :=
  ∀ outer ∈ chunks, ∀ inner ∈ chunks, outer.startOffset ≤ inner.startOffset →
    inner.startOffset < outer.endOffset → inner.endOffset ≤ outer.endOffset

instance (chunks : List Chunk) : Decidable (Nested chunks) :=
  inferInstanceAs (Decidable (∀ outer ∈ chunks, ∀ inner ∈ chunks, _))

namespace LocatedHeader

variable {source : Text} {outer inner : LocatedHeader}

/-- A declaration that starts on one of the lines of another one. -/
def StartsIn (inner outer : LocatedHeader) (source : Text) : Prop :=
  outer.firstLine source ≤ inner.firstLine source ∧
    inner.firstLine source ≤ outer.lastLine source

/-- A declaration whose lines below the header of another one count as lines of that one's block,
as far as they have to be looked at. -/
structure StaysIn (inner outer : LocatedHeader) (source : Text) : Prop where
  /-- The header does, wherever it starts. -/
  header : ∀ line, outer.colonLine source < line → line ≤ inner.colonLine source →
    staysInside (outer.indent source) (source.lines.getD line []) = true
  /-- When the declaration starts within the outer header, its body does so, too. -/
  body : inner.firstLine source ≤ outer.colonLine source → ∀ line, outer.colonLine source < line →
    line ≤ inner.lastLine source →
      staysInside (outer.indent source) (source.lines.getD line []) = true
  /-- A colon in what looks like a comment is not left behind at the end of the outer block. -/
  colon : ¬IsCode (source.lines.getD (inner.colonLine source) []) →
    inner.colonLine source ≤ outer.lastLine source

namespace In

/-! ## Lines of two declarations -/

/-- Lines below the colon of a declaration are in its block when they stay inside, up to a line with
code. -/
theorem le_lastLine {located : LocatedHeader} {last : Nat}
    (code : IsCode (source.lines.getD last []))
    (inside : ∀ line, located.colonLine source < line → line ≤ last →
      staysInside (located.indent source) (source.lines.getD line []) = true) :
    last ≤ located.lastLine source := by
  rcases Nat.lt_or_ge (located.colonLine source) last with below | above
  · have within := le_blockEnd below code inside
    rw [blockEnd_eq] at within
    exact Int.ofNat_le.1 within
  · exact Nat.le_trans above (lastLine_bounds located source).1

theorem staysInside_of_le_lastLine {located : LocatedHeader} {line : Nat}
    (below : located.colonLine source < line) (within : line ≤ located.lastLine source) :
    staysInside (located.indent source) (source.lines.getD line []) = true :=
  staysInside_of_le_blockEnd below (by rw [blockEnd_eq]; exact Int.ofNat_le.2 within)

theorem indent_lt (header : inner.In source)
    (inside : staysInside (outer.indent source)
      (source.lines.getD (inner.nameLine source) []) = true) :
    outer.indent source < inner.indent source := by
  rw [header.isCode_nameLine.staysInside_iff] at inside
  exact Int.ofNat_lt.1 inside

/-- All lines of a declaration below the colon of another one stay inside its block. -/
theorem staysInside_of_staysIn (header : inner.In source) (stays : inner.StaysIn outer source)
    {line : Nat} (below : outer.colonLine source < line) (within : line ≤ inner.lastLine source) :
    staysInside (outer.indent source) (source.lines.getD line []) = true := by
  rcases Nat.lt_or_ge (outer.colonLine source) (inner.firstLine source) with behind | among
  · rcases Nat.lt_or_ge (inner.colonLine source) line with inBody | inHeader
    · have name := firstLine_le_nameLine inner source
      have deeper := header.indent_lt (stays.header (inner.nameLine source)
        (Nat.lt_of_lt_of_le behind name) header.nameLine_le_colonLine)
      exact staysInside_of_le (Int.ofNat_le.2 (Nat.le_of_lt deeper))
        (staysInside_of_le_lastLine inBody within)
    · exact stays.header line below inHeader
  · exact stays.body among line below within

theorem lastLine_le_iff (header : inner.In source) :
    inner.lastLine source ≤ outer.lastLine source ↔ inner.StaysIn outer source := by
  have colon := (lastLine_bounds inner source).1
  constructor
  · intro within
    refine ⟨fun line below inHeader => ?_, fun _ line below inBlock => ?_, fun _ => ?_⟩
    · exact staysInside_of_le_lastLine below (Nat.le_trans inHeader (Nat.le_trans colon within))
    · exact staysInside_of_le_lastLine below (Nat.le_trans inBlock within)
    · exact Nat.le_trans colon within
  · intro stays
    have inside : ∀ line, outer.colonLine source < line → line ≤ inner.lastLine source →
        staysInside (outer.indent source) (source.lines.getD line []) = true :=
      fun line below within => header.staysInside_of_staysIn stays below within
    rcases lastLine_cases inner source with atColon | code
    · rcases Decidable.em (IsCode (source.lines.getD (inner.lastLine source) [])) with
        code | notCode
      · exact le_lastLine code inside
      · rw [atColon] at notCode ⊢
        exact stays.colon notCode
    · exact le_lastLine code inside

/-! ## Offsets of two declarations -/

theorem startsIn_iff (outerHeader : outer.In source) (innerHeader : inner.In source) :
    inner.StartsIn outer source ↔
      (chunkOf source (LineTable.ofText source) outer).startOffset ≤
          (chunkOf source (LineTable.ofText source) inner).startOffset ∧
        (chunkOf source (LineTable.ofText source) inner).startOffset <
          (chunkOf source (LineTable.ofText source) outer).endOffset := by
  have outerStart := outerHeader.startOffset_chunkOf
  have innerStart := innerHeader.startOffset_chunkOf
  have outerStop := outerHeader.endOffset_chunkOf
  have filled := innerHeader.lineOffset_firstLine_lt
  have order : Text.lineOffset source.lines (outer.firstLine source) ≤
      Text.lineOffset source.lines (inner.firstLine source) ↔
        outer.firstLine source ≤ inner.firstLine source :=
    Text.lineOffset_le_iff (Nat.le_of_lt (firstLine_lt outer source))
  have reach : inner.firstLine source ≤ outer.lastLine source ↔
      Text.lineOffset source.lines (inner.firstLine source) + 1 <
        Text.lineOffset source.lines (outer.lastLine source + 1) := by
    constructor
    · intro within
      have := Text.lineOffset_le source.lines
        (show inner.firstLine source + 1 ≤ outer.lastLine source + 1 by omega)
      omega
    · intro before
      rcases Nat.lt_or_ge (outer.lastLine source) (inner.firstLine source) with behind | within
      · have := Text.lineOffset_le source.lines
          (show outer.lastLine source + 1 ≤ inner.firstLine source from behind)
        omega
      · exact within
  rw [StartsIn, ← order, reach]
  omega

theorem endOffset_le_iff (outerHeader : outer.In source) (innerHeader : inner.In source) :
    (chunkOf source (LineTable.ofText source) inner).endOffset ≤
        (chunkOf source (LineTable.ofText source) outer).endOffset ↔
      inner.lastLine source ≤ outer.lastLine source := by
  have order : Text.lineOffset source.lines (inner.lastLine source + 1) ≤
      Text.lineOffset source.lines (outer.lastLine source + 1) ↔
        inner.lastLine source + 1 ≤ outer.lastLine source + 1 :=
    Text.lineOffset_le_iff (lastLine_bounds inner source).2
  rw [outerHeader.endOffset_chunkOf, innerHeader.endOffset_chunkOf]
  omega

end In

end LocatedHeader

/-- The chunks of a source are nested exactly when each declaration that starts within another one
stays in it with its header, and with the rest if it starts within the header of that one. -/
theorem chunks_nested_iff (source : Text) :
    Nested (chunks source) ↔ ∀ outer ∈ allHeaders source, ∀ inner ∈ allHeaders source,
      inner.StartsIn outer source → inner.StaysIn outer source := by
  rcases Decidable.em (allHeaders source = []) with noHeaders | hasHeaders
  · rw [chunks_of_nil noHeaders, noHeaders]
    refine iff_of_true ?_ (List.forall_mem_nil _)
    intro outer outerMember inner innerMember _ _
    obtain rfl := List.mem_singleton.1 outerMember
    obtain rfl := List.mem_singleton.1 innerMember
    exact Int.le_refl _
  · constructor
    · intro nested outer outerMember inner innerMember startsIn
      have outerHeader := in_of_mem_allHeaders outerMember
      have innerHeader := in_of_mem_allHeaders innerMember
      obtain ⟨before, within⟩ := (outerHeader.startsIn_iff innerHeader).1 startsIn
      have ends := nested _ ((mem_chunks_iff hasHeaders).2 ⟨outer, outerMember, rfl⟩) _
        ((mem_chunks_iff hasHeaders).2 ⟨inner, innerMember, rfl⟩) before within
      exact innerHeader.lastLine_le_iff.1 ((outerHeader.endOffset_le_iff innerHeader).1 ends)
    · intro stays chunk member chunk' member' before within
      obtain ⟨outer, outerMember, rfl⟩ := (mem_chunks_iff hasHeaders).1 member
      obtain ⟨inner, innerMember, rfl⟩ := (mem_chunks_iff hasHeaders).1 member'
      have outerHeader := in_of_mem_allHeaders outerMember
      have innerHeader := in_of_mem_allHeaders innerMember
      have startsIn := (outerHeader.startsIn_iff innerHeader).2 ⟨before, within⟩
      exact (outerHeader.endOffset_le_iff innerHeader).2
        (innerHeader.lastLine_le_iff.2 (stays outer outerMember inner innerMember startsIn))

/-- A parameter list that goes on at the left margin ends the class around its method. -/
theorem chunks_crossing_method :
    (chunks "class A:\n  def f(a,\nb):\n    x".toList).map Chunk.range = [(0, 19), (9, 29)] ∧
      ¬Nested (chunks "class A:\n  def f(a,\nb):\n    x".toList) := by
  have found := chunks_eq (List.reverse_perm ((allHeaders
      "class A:\n  def f(a,\nb):\n    x".toList).map (chunkOf _ _)))
    (by decide +kernel) (by decide +kernel)
  rw [found]
  decide +kernel

end Segmentation.Indentation
