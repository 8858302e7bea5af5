import Segmentation.Proofs.Indentation.Extent
import Segmentation.Proofs.Indentation.Reading

/-!
# Shapes of declarations

The chunk of a declaration consists of whole lines: it starts on the line on which something looks
declared, it holds its header down to the colon, and it ends with a line that is not empty. No two
chunks start together. Within a kind that is so because the search goes on behind each header, and
headers of both kinds cannot be read at one place, since the word behind the decorators tells them
apart.
-/

namespace Segmentation.Indentation

variable {text rest : Text} {kind : HeaderKind} {source : Text} {located : LocatedHeader}

/-! ## Words of headers -/

/-- Behind the decorators of a header stands a word of its kind. -/
theorem exists_openingWord {header : Header}
    (found : takeHeader? kind text = some (header, rest)) :
    ∃ word ∈ openingWords kind,
      Text.startsWith
        (takeDecorators (takeRun isIndent text).2.length (takeRun isIndent text).2).2 word := by
  by_contra noWord
  have unread : takeHeader? kind text = none := by
    refine takeHeader?_eq_none rfl rfl fun word listed => ?_
    exact Bool.eq_false_iff.2 fun starts => noWord ⟨word, listed, starts⟩
  rw [unread] at found
  exact absurd found (by simp)

/-- At one place only headers of one kind are read. -/
theorem kind_eq_of_takeHeader? {kind' : HeaderKind} {header header' : Header} {rest' : Text}
    (found : takeHeader? kind text = some (header, rest))
    (found' : takeHeader? kind' text = some (header', rest')) : kind = kind' := by
  obtain ⟨word, listed, starts⟩ := exists_openingWord found
  obtain ⟨word', listed', starts'⟩ := exists_openingWord found'
  have apart : word.toList <+: word'.toList ∨ word'.toList <+: word.toList :=
    List.prefix_or_prefix_of_prefix (Text.startsWith_iff.1 starts) (Text.startsWith_iff.1 starts')
  have words : ∀ word ∈ openingWords .functionHeader, ∀ word' ∈ openingWords .classHeader,
      ¬(word.toList <+: word'.toList ∨ word'.toList <+: word.toList) := by
    decide
  cases kind <;> cases kind'
  · rfl
  · exact absurd apart (words word listed word' listed')
  · exact absurd apart.symm (words word' listed' word listed)
  · rfl

/-- A line that goes on with one of the words of a declaration looks declared. -/
theorem looksDeclared_append {lead : Text} {word : String}
    (blank : ∀ character ∈ lead, isIndent character)
    (listed : word ∈ ["@", "def", "async", "class"]) (starts : text.startsWith word = true) :
    looksDeclared ((lead ++ text).takeWhile (· != '\n')) = true := by
  obtain ⟨others, rfl⟩ := Text.startsWith_iff.1 starts
  have solid : '\n' ∉ word.toList ∧ ∃ first later, word.toList = first :: later ∧
      isIndent first = false := by
    simp only [List.mem_cons, List.not_mem_nil, or_false] at listed
    rcases listed with rfl | rfl | rfl | rfl <;> exact ⟨by decide, _, _, rfl, by decide⟩
  obtain ⟨inLine, first, later, split, filled⟩ := solid
  rw [List.takeWhile_append_of_pos (Text.bne_newline (newline_not_mem_of_indent blank)),
    List.takeWhile_append_of_pos (Text.bne_newline inLine), looksDeclared,
    List.dropWhile_append_of_pos blank, split, List.cons_append,
    List.dropWhile_cons_of_neg (by rw [filled]; exact Bool.false_ne_true), ← List.cons_append,
    ← split, Text.startsWithAny, List.any_eq_true]
  exact ⟨word, listed, Text.startsWith_iff.2 (List.prefix_append _ _)⟩

theorem looksDeclared_of_takeHeader? {header : Header}
    (found : takeHeader? kind text = some (header, rest)) :
    looksDeclared (text.takeWhile (· != '\n')) = true := by
  obtain ⟨word, listed, starts⟩ := exists_openingWord found
  have lead := forall_mem_takeRun isIndent text
  have whole := takeRun_append isIndent text
  generalize takeRun isIndent text = run at lead whole starts
  obtain ⟨lead', behind⟩ := run
  have decorators := takeDecorators_append behind.length behind
  rw [← whole]
  rcases takeDecorators_sign behind.length behind with undecorated | ⟨others, sign⟩
  · rw [undecorated, List.nil_append] at decorators
    exact looksDeclared_append lead (mem_of_mem_openingWords listed) (decorators ▸ starts)
  · refine looksDeclared_append lead (show "@" ∈ _ by simp) ?_
    rw [← decorators, sign]
    exact Text.startsWith_iff.2 ⟨_, rfl⟩

/-! ## Places of headers -/

theorem exists_takeHeader?_of_mem_headers (member : located ∈ headers kind source) :
    ∃ rest, takeHeader? kind (source.drop located.offset) = some (located.header, rest) := by
  obtain ⟨position, rest, offset, found, -⟩ := exists_takeHeader?_of_mem_headersFrom member
  rw [Nat.zero_add] at offset
  exact ⟨rest, offset ▸ found⟩

theorem exists_kind_of_mem_allHeaders (member : located ∈ allHeaders source) :
    ∃ kind, located ∈ headers kind source := by
  rcases List.mem_append.1 member with ofFunction | ofClass
  · exact ⟨.functionHeader, ofFunction⟩
  · exact ⟨.classHeader, ofClass⟩

theorem headersFrom_increase (kind : HeaderKind) (offset skip : Nat) (lineStart : Bool)
    (text : Text) : (headersFrom kind offset lineStart skip text).Pairwise
      fun left right => left.offset < right.offset := by
  induction text generalizing offset skip lineStart with
  | nil => exact .nil
  | cons character others ih =>
      unfold headersFrom
      cases skip with
      | succ skip => exact ih _ _ _
      | zero =>
          dsimp only
          split
          · refine List.pairwise_cons.2 ⟨fun later member => ?_, ih _ _ _⟩
            obtain ⟨position, -, place, -⟩ := exists_takeHeader?_of_mem_headersFrom member
            dsimp only
            omega
          · exact ih _ _ _

/-- No two headers of a source start together, whatever their kinds. -/
theorem allHeaders_apart (source : Text) :
    (allHeaders source).Pairwise fun left right => left.offset ≠ right.offset := by
  have apart (kind : HeaderKind) :
      (headers kind source).Pairwise fun left right => left.offset ≠ right.offset :=
    (headersFrom_increase kind 0 0 true source).imp fun before => Nat.ne_of_lt before
  refine List.pairwise_append.2 ⟨apart _, apart _, fun left ofFunction right ofClass same => ?_⟩
  obtain ⟨rest, found⟩ := exists_takeHeader?_of_mem_headers ofFunction
  obtain ⟨rest', found'⟩ := exists_takeHeader?_of_mem_headers ofClass
  rw [same] at found
  exact absurd (kind_eq_of_takeHeader? found found') (by decide)

theorem chunks_increase (source : Text) :
    (chunks source).Pairwise fun left right => left.startOffset < right.startOffset := by
  rcases Decidable.em (allHeaders source = []) with noHeaders | hasHeaders
  · rw [chunks_of_nil noHeaders]
    exact List.pairwise_singleton _ _
  · have apart : (chunks source).Pairwise fun left right =>
        left.startOffset ≠ right.startOffset := by
      refine ((chunks_perm hasHeaders).pairwise_iff fun different => Ne.symm different).2 ?_
      refine List.pairwise_map.2 ((allHeaders_apart source).imp fun different same => ?_)
      exact different (Int.ofNat.inj same)
    refine ((chunks_sorted source).and apart).imp ?_
    rintro left right ⟨ordered, different⟩
    omega

/-! ## Shapes -/

namespace LocatedHeader.In

theorem stop_lt_lineOffset (header : located.In source) :
    located.stop < Text.lineOffset source.lines (located.colonLine source + 1) := by
  have inside := header.stop_le
  have long := header.two_le_length
  have stop_eq : located.stop = located.offset + located.header.length := rfl
  obtain ⟨low, high⟩ := Text.lineOffset_newlines (Nat.le_trans (Nat.sub_le _ 1) inside)
  have colon := header.getElem?_colon
  rw [← Text.joinLines_lines source] at colon
  obtain ⟨index, -, low', high'⟩ := Text.exists_line_of_ne_newline colon (by decide)
  obtain rfl := Text.line_unique low high low' (by omega)
  rw [LocatedHeader.colonLine]
  omega

end LocatedHeader.In

/-- The shape of a declaration's chunk: whole lines of the source, from one on which something looks
declared to one that is not empty, with all of the header among them. -/
structure Shaped (source : Text) (located : LocatedHeader) (chunk : Chunk) : Prop where
  made : chunk = chunkOf source (LineTable.ofText source) located
  slice : chunk.IsSlice source
  header_eq : source.slice located.offset located.stop = located.header.text
  header_colon : located.header.text.getLast? = some ':'
  header_start : chunk.startOffset = located.offset
  header_stop : located.stop ≤ chunk.endOffset
  exists_lines : ∃ first last, first ≤ last ∧ last < source.lines.length ∧
    chunk.startOffset = Text.lineOffset source.lines first ∧
    chunk.endOffset =
      (Text.lineOffset source.lines last + (source.lines.getD last []).length : Nat) ∧
    looksDeclared (source.lines.getD first []) = true ∧ source.lines.getD last [] ≠ []

theorem shaped_chunkOf (member : located ∈ allHeaders source) :
    Shaped source located (chunkOf source (LineTable.ofText source) located) := by
  obtain ⟨kind, found⟩ := exists_kind_of_mem_allHeaders member
  obtain ⟨after, read⟩ := exists_takeHeader?_of_mem_headers found
  have header := in_of_mem_allHeaders member
  obtain ⟨rest, whole⟩ := header.exists_rest
  obtain ⟨front, ends⟩ := header.formed.text_eq
  obtain ⟨colon, last⟩ := LocatedHeader.In.lastLine_bounds located source
  have stop := header.endOffset_chunkOf
  refine ⟨rfl, (declares_chunkOf header).slice, ?_, by rw [ends]; simp, rfl, ?_,
    located.firstLine source, located.lastLine source, ?_, last, header.startOffset_chunkOf, ?_, ?_,
    header.lastLine_ne_nil⟩
  · rw [Text.slice_natCast, whole, LocatedHeader.stop, Nat.add_sub_cancel_left, Header.length,
      List.take_left]
  · have reach := header.stop_lt_lineOffset
    have further := Text.lineOffset_le source.lines (Nat.add_le_add_right colon 1)
    omega
  · exact Nat.le_trans (Nat.le_trans (LocatedHeader.In.firstLine_le_nameLine located source)
      header.nameLine_le_colonLine) colon
  · have step := Text.lineOffset_succ source.lines _ last
    rw [List.getD_eq_getElem _ _ last]
    omega
  · have line := header.lineStart.getD_lines (source.drop located.offset)
    rw [List.take_append_drop] at line
    rw [LocatedHeader.firstLine, line]
    exact looksDeclared_of_takeHeader? read

/-- A source that declares nothing is one chunk. Otherwise its chunks start one behind the other,
and each has the shape of a declaration. -/
theorem chunks_shaped (source : Text) :
    allHeaders source = [] ∧ chunks source = [Chunk.wholeSource .wholeModule "module" source] ∧
        (∀ chunk ∈ chunks source, chunk.HoldsAll source) ∨
      ((chunks source).Pairwise fun left right => left.startOffset < right.startOffset) ∧
        ∀ chunk ∈ chunks source, ∃ located ∈ allHeaders source, Shaped source located chunk := by
  rcases Decidable.em (allHeaders source = []) with noHeaders | hasHeaders
  · refine .inl ⟨noHeaders, chunks_of_nil noHeaders, ?_⟩
    rw [chunks_of_nil noHeaders]
    exact List.forall_mem_singleton.2 (Chunk.holdsAll_wholeSource .wholeModule "module" source)
  · refine .inr ⟨chunks_increase source, fun chunk member => ?_⟩
    obtain ⟨located, found, rfl⟩ := (mem_chunks_iff hasHeaders).1 member
    exact ⟨located, found, shaped_chunkOf found⟩

end Segmentation.Indentation
