import Segmentation.Proofs.Indentation.Declarations

/-!
# Lines of a declaration

A declaration is placed by four lines: where its header starts, where its name stands, where its
colon stands and where its block ends. The name stands on a line with code, whose indentation is
that of the declaration. The last line is the colon's or a line with code, so it is never empty.
-/

namespace Segmentation.Indentation

namespace LocatedHeader

/-- The line on which the header starts. -/
def firstLine (located : LocatedHeader) (source : Text) : Nat :=
  Text.newlines (source.take located.offset)

/-- The line on which the name stands. -/
def nameLine (located : LocatedHeader) (source : Text) : Nat :=
  Text.newlines (source.take located.nameOffset)

/-- The line on which the colon stands. -/
def colonLine (located : LocatedHeader) (source : Text) : Nat :=
  Text.newlines (source.take (located.stop - 1))

/-- How deep the declaration is indented. -/
def indent (located : LocatedHeader) (source : Text) : Nat :=
  indentWidth (source.lines.getD (located.nameLine source) [])

/-- The line with which the block ends. -/
def lastLine (located : LocatedHeader) (source : Text) : Nat :=
  (blockEnd source.lines (located.colonLine source + 1) (located.indent source)).toNat

namespace In

variable {located : LocatedHeader} {source : Text}

/-! ## The header -/

/-- The source around the name: whole lines, the indentation of the line of the name, and the rest
of the header. -/
theorem exists_before (header : located.In source) : ∃ before gap rest,
    source = before ++ (gap ++ (located.header.opening ++ (located.header.name ++
      (located.header.tail ++ rest)))) ∧
    Text.WholeLines before ∧ (∀ character ∈ gap, isIndent character) ∧
    located.nameOffset = (before ++ (gap ++ located.header.opening)).length := by
  obtain ⟨rest, whole⟩ := header.exists_rest
  obtain ⟨lines, gap, decorators, lineEnds, blank⟩ := header.formed.decorators_lines
  have offset : (source.take located.offset).length = located.offset := by
    have := header.stop_le
    have := header.two_le_length
    simp only [LocatedHeader.stop] at *
    rw [List.length_take]
    omega
  have split : source = source.take located.offset ++ (located.header.text ++ rest) := by
    rw [← whole, List.take_append_drop]
  have name : located.nameOffset = (source.take located.offset ++
      (located.header.lead ++ (lines ++ gap) ++ located.header.opening)).length := by
    rw [List.length_append, offset, ← decorators]
    rfl
  rw [Header.text, decorators] at split
  rcases lineEnds with rfl | ⟨front, rfl⟩
  · refine ⟨source.take located.offset, located.header.lead ++ gap, rest, ?_, header.lineStart, ?_,
      ?_⟩
    · simpa using split
    · intro character member
      rcases List.mem_append.1 member with first | later
      · exact header.formed.lead_blank character first
      · exact blank character later
    · simpa using name
  · refine ⟨source.take located.offset ++ located.header.lead ++ (front ++ ['\n']), gap, rest, ?_,
      .inr ⟨source.take located.offset ++ located.header.lead ++ front, by simp⟩, blank, ?_⟩
    · simpa using split
    · simpa using name

/-- The line of the name has the indentation in front of the keywords, and then these. -/
theorem getD_nameLine (header : located.In source) {before gap rest : Text}
    (split : source = before ++ (gap ++ (located.header.opening ++ (located.header.name ++
      (located.header.tail ++ rest)))))
    (whole : Text.WholeLines before) (blank : ∀ character ∈ gap, isIndent character)
    (name : located.nameOffset = (before ++ (gap ++ located.header.opening)).length) :
    ∃ character others,
      source.lines.getD (located.nameLine source) [] = gap ++ character :: others ∧
      isBlank character = false ∧ character ≠ '#' := by
  obtain ⟨character, others, opening, filled, noComment⟩ := header.formed.opening.first
  have gapLine := newline_not_mem_of_indent blank
  have line := header.formed.opening.line
  have count : located.nameLine source = Text.newlines before := by
    have front : source.take located.nameOffset = before ++ (gap ++ located.header.opening) := by
      rw [name, split, ← List.append_assoc, ← List.append_assoc, ← List.append_assoc,
        List.append_assoc before, List.take_left]
    rw [nameLine, front, Text.newlines_append, Nat.add_eq_left, Text.newlines_eq_zero_iff,
      List.mem_append, not_or]
    exact ⟨gapLine, line⟩
  rw [count, split, whole.getD_lines, List.takeWhile_append_of_pos (Text.bne_newline gapLine),
    opening, List.cons_append, List.takeWhile_cons_of_pos]
  · exact ⟨character, _, rfl, filled, noComment⟩
  · rw [opening, List.mem_cons, not_or] at line
    simpa using Ne.symm line.1

theorem isCode_nameLine (header : located.In source) :
    IsCode (source.lines.getD (located.nameLine source) []) := by
  obtain ⟨before, gap, rest, split, whole, blank, name⟩ := header.exists_before
  obtain ⟨character, others, line, filled, noComment⟩ :=
    header.getD_nameLine split whole blank name
  rw [line]
  exact isCode_of_first (fun other member => isBlank_of_isIndent (blank other member)) filled
    noComment

theorem isCode_firstLine (header : located.In source) :
    IsCode (source.lines.getD (located.firstLine source) []) := by
  obtain ⟨rest, whole⟩ := header.exists_rest
  obtain ⟨character, others, first, filled, noComment⟩ := header.formed.first
  have lead := header.formed.lead_blank
  have behind : source.drop located.offset = located.header.lead ++ character ::
      (others ++ (located.header.name ++ (located.header.tail ++ rest))) := by
    rw [whole, ← List.cons_append, ← first]
    simp [Header.text]
  have inLine : character ≠ '\n' := by
    rintro rfl
    exact absurd filled (by decide)
  have line := header.lineStart.getD_lines (source.drop located.offset)
  rw [List.take_append_drop, behind, List.takeWhile_append_of_pos
    (Text.bne_newline (newline_not_mem_of_indent lead)), List.takeWhile_cons_of_pos
    (by simpa using inLine)] at line
  rw [firstLine, line]
  exact isCode_of_first (fun other member => isBlank_of_isIndent (lead other member)) filled
    noComment

/-- How deep a declaration is indented is what stands in front of its keywords. -/
theorem indent_eq (header : located.In source) {before gap rest : Text}
    (split : source = before ++ (gap ++ (located.header.opening ++ (located.header.name ++
      (located.header.tail ++ rest)))))
    (whole : Text.WholeLines before) (blank : ∀ character ∈ gap, isIndent character)
    (name : located.nameOffset = (before ++ (gap ++ located.header.opening)).length) :
    located.indent source = gap.length := by
  obtain ⟨character, others, line, filled, -⟩ := header.getD_nameLine split whole blank name
  rw [indent, line]
  exact indentWidth_eq (fun other member => isBlank_of_isIndent (blank other member)) filled

theorem nameOffset_le (header : located.In source) : located.nameOffset ≤ located.stop - 1 := by
  obtain ⟨front, colon⟩ := header.formed.colon
  simp only [LocatedHeader.nameOffset, LocatedHeader.stop, Header.nameStart, Header.length,
    Header.text, colon, List.length_append, List.length_singleton]
  omega

theorem getElem?_colon (header : located.In source) : source[located.stop - 1]? = some ':' := by
  obtain ⟨rest, whole⟩ := header.exists_rest
  obtain ⟨front, ends⟩ := header.formed.text_eq
  have place : located.stop - 1 = located.offset + front.length := by
    simp only [LocatedHeader.stop, Header.length, ends, List.length_append, List.length_singleton]
    omega
  rw [place, ← List.getElem?_drop, whole, ends, List.append_assoc,
    List.getElem?_append_right (Nat.le_refl _), Nat.sub_self]
  rfl

/-! ## Lines in their order -/

theorem firstLine_le_nameLine (located : LocatedHeader) (source : Text) :
    located.firstLine source ≤ located.nameLine source :=
  Text.newlines_take_le (Nat.le_add_right _ _)

theorem nameLine_le_colonLine (header : located.In source) :
    located.nameLine source ≤ located.colonLine source :=
  Text.newlines_take_le header.nameOffset_le

theorem firstLine_lt (located : LocatedHeader) (source : Text) :
    located.firstLine source < source.lines.length :=
  Text.newlines_take_lt _

theorem colonLine_lt (located : LocatedHeader) (source : Text) :
    located.colonLine source < source.lines.length :=
  Text.newlines_take_lt _

theorem blockEnd_eq (located : LocatedHeader) (source : Text) :
    blockEnd source.lines (located.colonLine source + 1) (located.indent source) =
      located.lastLine source := by
  have bounds := blockEnd_bounds (located.indent source)
    (show located.colonLine source + 1 ≤ _ from colonLine_lt located source)
  rw [lastLine]
  omega

theorem lastLine_bounds (located : LocatedHeader) (source : Text) :
    located.colonLine source ≤ located.lastLine source ∧
      located.lastLine source < source.lines.length := by
  have bounds := blockEnd_bounds (located.indent source)
    (show located.colonLine source + 1 ≤ _ from colonLine_lt located source)
  rw [blockEnd_eq] at bounds
  omega

theorem lastLine_cases (located : LocatedHeader) (source : Text) :
    located.lastLine source = located.colonLine source ∨
      IsCode (source.lines.getD (located.lastLine source) []) := by
  rcases Nat.eq_or_lt_of_le (lastLine_bounds located source).1 with colon | behind
  · exact .inl colon.symm
  · exact .inr (isCode_of_eq_blockEnd behind (blockEnd_eq located source).symm)

theorem lastLine_ne_nil (header : located.In source) :
    source.lines.getD (located.lastLine source) [] ≠ [] := by
  rcases lastLine_cases located source with colon | code
  · rw [colon]
    exact Text.line_ne_nil header.getElem?_colon (by decide)
  · intro empty
    rw [empty] at code
    exact not_isCode_nil code

/-! ## The chunk -/

theorem offset_eq (header : located.In source) :
    located.offset = Text.lineOffset source.lines (located.firstLine source) := by
  have inside := header.stop_le
  rw [LocatedHeader.stop] at inside
  exact (header.lineStart.lineOffset_eq (by omega)).symm

theorem lastLine_chunkOf (header : located.In source) :
    (blockEnd (LineTable.ofText source).lines
      ((LineTable.ofText source).lineOf (located.stop - 1) + 1)
      (indentWidth ((LineTable.ofText source).line
        ((LineTable.ofText source).lineOf located.nameOffset)))).toNat =
      located.lastLine source := by
  have inside := header.stop_le
  have name := header.nameOffset_le
  rw [LineTable.lineOf_eq_newlines (by omega), LineTable.lineOf_eq_newlines (by omega)]
  rfl

theorem startOffset_chunkOf (header : located.In source) :
    (chunkOf source (LineTable.ofText source) located).startOffset =
      (Text.lineOffset source.lines (located.firstLine source) : Int) := by
  rw [← header.offset_eq]
  rfl

theorem lineOffset_firstLine_lt (header : located.In source) :
    Text.lineOffset source.lines (located.firstLine source) + 1 <
      Text.lineOffset source.lines (located.firstLine source + 1) := by
  have first := firstLine_lt located source
  obtain ⟨character, found, inLine⟩ := header.first_ne_newline
  have filled := Text.line_ne_nil found inLine
  rw [← firstLine, List.getD_eq_getElem _ _ first] at filled
  have length := List.length_pos_iff.2 filled
  rw [Text.lineOffset_succ source.lines _ first]
  omega

theorem startLine_chunkOf (header : located.In source) :
    (chunkOf source (LineTable.ofText source) located).startLine =
      located.firstLine source + 1 := by
  have inside : located.offset ≤ source.length :=
    Nat.le_trans (Nat.le_add_right _ _) header.stop_le
  rw [LocatedHeader.firstLine, ← LineTable.lineOf_eq_newlines inside]
  rfl

theorem endLine_chunkOf (header : located.In source) :
    (chunkOf source (LineTable.ofText source) located).endLine = located.lastLine source + 1 := by
  rw [← header.lastLine_chunkOf]
  rfl

/-- The documentation is looked for from the line behind the colon on. -/
theorem docComment_chunkOf (header : located.In source) :
    (chunkOf source (LineTable.ofText source) located).docComment =
      docString? source.lines (located.colonLine source + 1) := by
  have inside : located.stop - 1 ≤ source.length :=
    Nat.le_trans (Nat.sub_le _ _) header.stop_le
  rw [LocatedHeader.colonLine, ← LineTable.lineOf_eq_newlines inside]
  rfl

theorem endOffset_chunkOf (header : located.In source) :
    (chunkOf source (LineTable.ofText source) located).endOffset =
      (Text.lineOffset source.lines (located.lastLine source + 1) : Int) - 1 := by
  have stop := LineTable.lineEnd_eq (lastLine_bounds located source).2
  have same : (chunkOf source (LineTable.ofText source) located).endOffset =
      ((LineTable.ofText source).lineEnd (located.lastLine source) : Int) := by
    rw [← header.lastLine_chunkOf]
    rfl
  omega

/-- The chunk neither starts nor ends with a newline. -/
theorem bareEnds_chunkOf (header : located.In source) :
    (chunkOf source (LineTable.ofText source) located).content.BareEnds := by
  obtain ⟨slice, filled, character, first, inLine⟩ := declares_chunkOf header
  have start : (chunkOf source (LineTable.ofText source) located).startOffset =
      (located.offset : Int) := rfl
  have stop := header.endOffset_chunkOf
  constructor
  · rw [List.head?_eq_getElem?, first]
    simpa using inLine
  · obtain ⟨final, equal⟩ := Int.eq_ofNat_of_zero_le (Int.le_trans slice.start_nonneg slice.ordered)
    have inside := slice.inside
    have content := slice.content_eq
    rw [equal] at stop inside content
    rw [start] at content
    rw [start, equal] at filled
    rw [content, Text.getLast?_slice (by omega) (by omega),
      show final - 1 = Text.lineOffset source.lines (located.lastLine source + 1) - 2 by omega]
    exact Text.getElem?_before_lineEnd header.lastLine_ne_nil

end In

end LocatedHeader

end Segmentation.Indentation
