import Segmentation.Proofs.Segmenter.Stages
import Segmentation.Proofs.Text.LineNumber

/-!
# Line numbers

Line numbers come about in four ways: by the table of lines, from the rows of syntax trees, by
counting lines within a chunk, and by counting the newlines before an offset. They agree: a piece
starts on the line of its first character. A window ends on the line of its last character, and
everything else on the line of its end, which is the one below when it ends with a newline.
-/

namespace Segmentation

namespace Chunk

/-- A chunk whose lines are those of its offsets. Its last line is that of its end, or that of its
last character. -/
structure Numbered (source : Text) (byCharacter : Bool) (chunk : Chunk) : Prop where
  startLine_eq : chunk.startLine = source.lineNumber chunk.startOffset
  endLine_eq : chunk.endLine =
    source.lineNumber (if byCharacter then chunk.endOffset - 1 else chunk.endOffset)

variable {chunk : Chunk} {source : Text} {maxSize overlap : Int}

theorem numbered_wholeSource (kind : ChunkKind) (name : String) (source : Text) :
    (wholeSource kind name source).Numbered source false where
  startLine_eq := (source.lineNumber_zero).symm
  endLine_eq := by
    rw [if_neg Bool.false_ne_true]
    refine Eq.trans ?_ source.lineNumber_length.symm
    rw [wholeSource, Text.length_lines]
    rfl

/-! ## Pieces -/

/-- Windows are numbered by their characters. -/
theorem numbered_windows (slice : chunk.IsSlice source) (nameParts : Bool) (nonneg : 0 ≤ overlap)
    (less : overlap < maxSize) (large : maxSize < chunk.size) :
    ∀ piece ∈ chunk.windows source maxSize overlap nameParts, piece.Numbered source true := by
  intro piece member
  have nonempty : chunk.startOffset < chunk.endOffset := by
    have := slice.size_eq
    omega
  have positive : 0 < maxSize := by omega
  rw [windows, if_neg (Int.not_le.2 large)] at member
  obtain ⟨number, inside, rfl⟩ := List.mem_mapIdx.1 member
  obtain ⟨low, filled, -, -⟩ := Window.ranges_bounds positive nonempty
    (Window.step_le positive nonneg) _ (List.getElem_mem inside)
  generalize (Window.ranges maxSize _ _ chunk.startOffset chunk.endOffset)[number] = place at *
  obtain ⟨start, stop⟩ := place
  have first := slice.start_nonneg
  simp only at low filled
  exact ⟨Window.lineAt_eq source (by omega), Window.lineAt_eq source (by omega)⟩

/-- Parts between lines are numbered by their ends: lines are counted on from the start of the
chunk, as they are in its content. -/
theorem numbered_pieces {layout : Split.Layout} {ranges : List (Nat × Nat)} (heading : Text)
    (slice : chunk.IsSlice source)
    (numbered : chunk.startLine = source.lineNumber chunk.startOffset)
    (formed : layout.WellFormed) (sameLines : layout.lines = chunk.content.lines)
    (plan : layout.Plan 0 ranges) :
    ∀ piece ∈ Split.pieces chunk source layout.starts heading ranges,
      piece.Numbered source false := by
  intro piece member
  obtain ⟨number, inside, rfl⟩ := List.mem_mapIdx.1 member
  obtain ⟨filled, within, -, -⟩ := plan.range_bounds _ (List.getElem_mem inside)
  generalize ranges[number] = range at *
  obtain ⟨first, stop⟩ := range
  simp only at filled within
  obtain ⟨last, rfl⟩ := Nat.exists_eq_add_of_lt filled
  have count : layout.count = chunk.content.lines.length := by rw [Split.Layout.count, sameLines]
  have line {index : Nat} (below : index < layout.count) :
      Text.lineOffset layout.lines index < Text.lineOffset layout.lines (index + 1) ∧
        Text.lineOffset layout.lines (index + 1) ≤ chunk.content.length + 1 := by
    refine ⟨Text.lineOffset_lt (Nat.lt_succ_self index) below, ?_⟩
    rw [sameLines, ← Text.lineOffset_lines]
    exact Text.lineOffset_le _ (count ▸ below)
  have number {index offset : Nat} (below : index < layout.count)
      (low : Text.lineOffset layout.lines index ≤ offset)
      (high : offset < Text.lineOffset layout.lines (index + 1)) :
      source.lineNumber (chunk.startOffset + offset) = chunk.startLine + index := by
    have within := (line below).2
    rw [sameLines] at low high within
    have here := Text.newlines_take_eq (show offset ≤ chunk.content.length by omega) low high
    rw [slice.content_eq] at here
    rw [Text.lineNumber_add slice.start_nonneg
      (show offset ≤ (source.slice chunk.startOffset chunk.endOffset).length by
        rw [← slice.content_eq]; omega), here, numbered]
  have start := line (show first < layout.count by omega)
  have final := line (show first + last < layout.count by omega)
  constructor
  · change chunk.startLine + (first : Int) =
      source.lineNumber (chunk.startOffset + layout.starts.getD first 0)
    rw [formed.getD_starts (by omega)]
    exact (number (by omega) (Nat.le_refl _) start.1).symm
  · change chunk.startLine + ((first + last + 1 : Nat) : Int) - 1 =
      source.lineNumber (chunk.startOffset + layout.starts.getD (first + last + 1) 0 - 1)
    rw [formed.getD_starts within]
    have stop := number (show first + last < layout.count by omega)
      (show _ ≤ Text.lineOffset layout.lines (first + last + 1) - 1 by omega) (by omega)
    have place : chunk.startOffset + (Text.lineOffset layout.lines (first + last + 1) : Int) - 1 =
        chunk.startOffset + (Text.lineOffset layout.lines (first + last + 1) - 1 : Nat) := by
      omega
    rw [place, stop]
    omega

/-! ## Cutting -/

/-- A numbered slice whose last line is not above its first. -/
structure NumberedSlice (source : Text) (byCharacter : Bool) (chunk : Chunk) : Prop
    extends chunk.IsSlice source, chunk.Numbered source byCharacter where
  reaches : chunk.startOffset.toNat ≤
    (if byCharacter then chunk.endOffset - 1 else chunk.endOffset).toNat

theorem CutInto.numberedSlice {pieces : List Chunk} {byCharacter : Bool}
    (cut : chunk.CutInto source maxSize pieces) (slice : chunk.IsSlice source)
    (numbered : ∀ piece ∈ pieces, piece.Numbered source byCharacter) :
    ∀ piece ∈ pieces, piece.NumberedSlice source byCharacter := by
  intro piece member
  obtain ⟨-, filled, -⟩ := cut.inside piece member
  refine ⟨cut.isSlice slice member, numbered piece member, ?_⟩
  split <;> omega

variable {options : Options}

/-- Whether the pieces of a chunk end on the line of their last character: those that are windows
do, and so does plain text that is small enough to stay whole. -/
def endsByCharacter (chunk : Chunk) (language : Language) (options : Options) : Bool :=
  language.strategy = .none ∨ chunk.division options = .windows ∨
    chunk.division options = .longLine

/-- Windows are numbered by their characters, and a chunk that is small enough stays as it is. -/
theorem numberedSlice_windows {byCharacter : Bool}
    (numbered : chunk.NumberedSlice source byCharacter) (nameParts : Bool) :
    ∀ piece ∈ chunk.windows source options.maxChunkSize options.overlap nameParts,
      piece.NumberedSlice source (byCharacter || options.maxChunkSize < chunk.size) := by
  have slice := numbered.toIsSlice
  have less := Int.ofNat_lt.2 options.overlap_lt_maxChunkSize
  have nonneg := Int.natCast_nonneg options.overlap
  rcases Nat.lt_or_ge options.maxChunkSize chunk.size with large | small
  · have large' := Int.ofNat_lt.2 large
    have cut := cutInto_windows nameParts slice.content_eq (slice.nonempty_of_lt_size large')
      (Int.ofNat_lt.2 options.maxChunkSize_pos) nonneg large'
    rw [decide_eq_true large, Bool.or_true]
    exact cut.numberedSlice slice (numbered_windows slice nameParts nonneg less large')
  · rw [windows, if_pos (Int.ofNat_le.2 small), decide_eq_false (Nat.not_lt.2 small), Bool.or_false]
    exact List.forall_mem_singleton.2 numbered

/-- However a chunk is split, its pieces are numbered: by their characters if they are windows
because a line is too long, and by their ends if not. -/
theorem SplitInto.numberedSlice {preserveSignatures : Bool} {family : Family} {pieces : List Chunk}
    (into : chunk.SplitInto source options.maxChunkSize options.overlap preserveSignatures family
      pieces) (numbered : chunk.NumberedSlice source false) {tooLong : Bool}
    (isTooLong : tooLong = true ↔ options.maxChunkSize < chunk.size ∧
      ∃ line ∈ chunk.content.lines, options.maxChunkSize < line.length) :
    ∀ piece ∈ pieces, piece.NumberedSlice source tooLong := by
  have slice := numbered.toIsSlice
  have less := Int.ofNat_lt.2 options.overlap_lt_maxChunkSize
  have nonneg := Int.natCast_nonneg options.overlap
  have cut (large : (options.maxChunkSize : Int) < chunk.size) :=
    into.cutInto slice.content_eq (slice.nonempty_of_lt_size large) nonneg less
  cases into with
  | whole small =>
      have short : tooLong = false := by
        rw [← Bool.not_eq_true, isTooLong]
        exact fun large => absurd large.1 (Nat.not_lt.2 (Int.ofNat_le.1 small))
      rw [short]
      exact List.forall_mem_singleton.2 numbered
  | windows large longer =>
      simp only [Int.ofNat_lt] at longer
      rw [isTooLong.2 ⟨Int.ofNat_lt.1 large, longer⟩]
      exact (cut large).numberedSlice slice (numbered_windows slice false nonneg less large)
  | lines large layoutOf formed sameLines sameSize plan =>
      have short : tooLong = false := by
        rw [← Bool.not_eq_true, isTooLong]
        rintro ⟨-, line, member, longer⟩
        have := formed.lines_fit line (sameLines ▸ member)
        omega
      rw [short]
      exact (cut large).numberedSlice slice
        (numbered_pieces _ slice numbered.startLine_eq formed sameLines plan)

/-- What a chunk is like that is cut into windows. -/
theorem division_windows_iff (chunk : Chunk) (options : Options) :
    (chunk.division options = .windows ∨ chunk.division options = .longLine) ↔
      options.maxChunkSize < chunk.size ∧ (chunk.isWholeFile = true ∨
        ∃ line ∈ chunk.content.lines, options.maxChunkSize < line.length) := by
  unfold division
  split
  · next small => simp [Nat.not_lt.2 small]
  · next large =>
      split
      · next wholeFile => simp [Nat.not_le.1 large, wholeFile]
      · next declared => split <;> simp_all

theorem gives_numberedSlice_bounded (numbered : chunk.NumberedSlice source false)
    (short : source.Addressable) (family : Family) (options : Options) :
    Gives (chunk.bounded source family options) fun pieces => ∀ piece ∈ pieces,
      piece.NumberedSlice source
        (decide (chunk.division options = .windows ∨ chunk.division options = .longLine)) := by
  rw [bounded_eq]
  simp only [division_windows_iff]
  split
  · next wholeFile =>
      exact .pure (by simpa [wholeFile] using numberedSlice_windows numbered false)
  · next declared =>
      refine (gives_splitInto numbered.toIsSlice short family options).imp fun pieces into => ?_
      exact into.numberedSlice numbered (by simp [declared])

end Chunk

/-! ## Analysing -/

section Analysing

variable {source : Text}

theorem Chunk.numberedSlice_wholeSource (kind : ChunkKind) (name : String) (source : Text) :
    (wholeSource kind name source).NumberedSlice source false :=
  ⟨isSlice_wholeSource kind name source, numbered_wholeSource kind name source, Nat.zero_le _⟩

theorem numberedSlice_plainText (source : Text) : (plainText source).NumberedSlice source true := by
  refine ⟨(found_plainText source).slice, ⟨(source.lineNumber_zero).symm, ?_⟩, Nat.zero_le _⟩
  refine (Window.lineAt_eq source (Int.le_max_right _ _)).trans ?_
  simp only [Text.lineNumber, plainText, if_true]
  rw [show (max ((source.length : Int) - 1) 0).toNat = ((source.length : Int) - 1).toNat by omega]

theorem Indentation.numberedSlice_of_mem_chunks {chunk : Chunk}
    (member : chunk ∈ Indentation.chunks source) : chunk.NumberedSlice source false := by
  rcases Indentation.mem_chunks_cases member with rfl | ⟨located, header, rfl⟩
  · exact Chunk.numberedSlice_wholeSource .wholeModule "module" source
  · have slice := (Indentation.declares_chunkOf header).slice
    have ordered := slice.ordered
    have stop := header.endOffset_chunkOf
    have last := (LocatedHeader.In.lastLine_bounds located source).2
    have step := Text.lineOffset_succ source.lines _ last
    have within := Text.lineOffset_le source.lines (show located.lastLine source + 1 ≤ _ from last)
    rw [Text.lineOffset_lines] at within
    refine ⟨slice, ⟨header.startLine_chunkOf, ?_⟩, ?_⟩
    · rw [if_neg Bool.false_ne_true, header.endLine_chunkOf, Text.lineNumber, Text.newlines_take_eq]
      all_goals omega
    · rw [if_neg Bool.false_ne_true]
      omega

/-- A chunk of a tree is numbered by the rows of its node. -/
theorem Declarations.numberedSlice_of_ofTree {tree : SyntaxTree} {outcome : ParseOutcome}
    {chunk : Chunk} (spanned : tree.info.hasError = false → tree.Spanned source)
    (made : ofTree source tree = .ok outcome) (member : chunk ∈ outcome.chunks) :
    chunk.NumberedSlice source false := by
  rcases spannedBy_of_ofTree made member with ⟨kind, name, rfl⟩ | ⟨noError, found⟩
  · exact Chunk.numberedSlice_wholeSource kind name source
  obtain ⟨statement, named, inner, unwrapped, ⟨start, stop, place, first, last⟩, startLine, endLine,
    content, -⟩ := found
  have innerSpanned : inner.Spanned source :=
    all_of_unwrapExports ((spanned noError).namedChild named) unwrapped
  obtain ⟨start', stop', spans⟩ := innerSpanned.root
  obtain ⟨rfl, rfl⟩ := Prod.mk.inj (Except.ok.inj (place.symm.trans (span_eq spans)))
  have ordered := spans.ordered
  have inside := spans.inside
  refine ⟨⟨by omega, by omega, by omega, content⟩, ⟨?_, ?_⟩, ?_⟩
  · rw [startLine, first, spans.startRow_eq, Text.lineNumber, Int.toNat_natCast, Nat.cast_succ]
  · rw [if_neg Bool.false_ne_true, endLine, last, spans.endRow_eq, Text.lineNumber,
      Int.toNat_natCast, Nat.cast_succ]
  · rw [if_neg Bool.false_ne_true]
    omega

/-- Where the language needs a tree of the source, the nodes of the tree that is made stand for
pieces of it, or the tree has an error. -/
def TreeReader.SpannedFor (treeOf : TreeReader) (source : Text) (language : Language) : Prop :=
  ∀ grammar, language.grammar? = some grammar → (treeOf grammar source).info.hasError = false →
    (treeOf grammar source).Spanned source

theorem gives_numberedSlice_analyse {treeOf : TreeReader} {language : Language}
    (spanned : treeOf.SpannedFor source language) :
    Gives (analyse treeOf source language) fun found => ∀ chunk ∈ found,
      chunk.NumberedSlice source (language.strategy = .none) := by
  unfold analyse
  cases strategy : language.strategy with
  | none =>
      refine .pure fun chunk member => ?_
      obtain rfl := List.mem_singleton.1 member
      exact numberedSlice_plainText source
  | indented => exact .pure fun chunk member => Indentation.numberedSlice_of_mem_chunks member
  | braces grammar =>
      have tree := spanned grammar (by simp [Language.grammar?, strategy])
      obtain ⟨outcome, made, -⟩ := Declarations.gives_ofTree tree
      exact ⟨outcome.chunks, map_eq_ok.2 ⟨outcome, made, rfl⟩, fun chunk member =>
        Declarations.numberedSlice_of_ofTree tree made member⟩

theorem Chunk.NumberedSlice.gives_finalPieces {chunk : Chunk} {language : Language}
    (numbered : chunk.NumberedSlice source (language.strategy = .none))
    (short : source.Addressable) (options : Options) :
    Gives (chunk.finalPieces source language options) fun pieces => ∀ piece ∈ pieces,
      piece.NumberedSlice source (chunk.endsByCharacter language options) := by
  unfold Chunk.finalPieces Chunk.endsByCharacter
  cases strategy : language.strategy with
  | none =>
      rw [strategy] at numbered
      simpa using Gives.pure (Chunk.numberedSlice_windows numbered true)
  | indented | braces grammar =>
      rw [strategy] at numbered
      simpa using Chunk.gives_numberedSlice_bounded numbered short language.family options

/-! ## Lines of code -/

/-- An empty last line holds no code, so there is no more code than lines that characters but the
last one are on. -/
theorem Metrics.linesOfCode_le (content : Text) (markers : List String) :
    linesOfCode content markers ≤ Text.newlines content.dropLast + 1 := by
  rcases List.eq_nil_or_concat content with rfl | ⟨front, last, rfl⟩
  · exact List.countP_le_length
  rw [List.concat_eq_append, List.dropLast_concat, linesOfCode]
  by_cases newline : last = '\n'
  · subst newline
    have blank : isCodeLine markers [] = false := rfl
    rw [Text.lines_append_newline, show Text.lines [] = [[]] from rfl, List.countP_append,
      List.countP_singleton, blank, ← Text.length_lines]
    exact List.countP_le_length
  · have inLine : Text.newlines [last] = 0 :=
      Text.newlines_eq_zero_iff.2 (by simpa using Ne.symm newline)
    rw [← Nat.add_zero (Text.newlines front), ← inLine, ← Text.newlines_append, ← Text.length_lines]
    exact List.countP_le_length

/-- A record whose lines are lines of the source, in their order, and no fewer than its lines of
code. -/
structure Record.LinesAgree (source : Text) (record : Record) : Prop where
  first : 1 ≤ record.chunk.startLine
  ordered : record.chunk.startLine ≤ record.chunk.endLine
  last : record.chunk.endLine ≤ source.newlines + 1
  written : ∃ code count, record.metadata.lookup "loc" = some (.number code) ∧
    record.metadata.lookup "line_count" = some (.number count) ∧ code ≤ count

theorem Chunk.NumberedSlice.linesAgree {chunk : Chunk} {byCharacter : Bool}
    (numbered : chunk.NumberedSlice source byCharacter) (language : Language)
    (calculateComplexity : Bool) :
    (Record.ofChunk chunk language calculateComplexity).LinesAgree source := by
  have size := numbered.size_eq
  have content : source.slice chunk.startOffset chunk.endOffset = chunk.content :=
    numbered.content_eq.symm
  have front := Text.lineNumber_add numbered.start_nonneg
    (show chunk.size - 1 ≤ (source.slice chunk.startOffset chunk.endOffset).length by
      rw [content]
      exact Nat.sub_le _ _)
  rw [content, Chunk.size, ← List.dropLast_eq_take, ← Chunk.size] at front
  have code := Metrics.linesOfCode_le chunk.content language.commentMarkers
  have reaches := numbered.reaches
  have low := numbered.start_nonneg
  have count : source.lineNumber (chunk.startOffset + (chunk.size - 1 : Nat)) ≤ chunk.endLine := by
    rw [numbered.endLine_eq]
    refine Text.lineNumber_mono ?_
    split at reaches <;> split <;> simp_all <;> omega
  refine ⟨?_, ?_, ?_, _, _, rfl, rfl, ?_⟩
  · exact numbered.startLine_eq ▸ source.lineNumber_pos _
  · change chunk.startLine ≤ chunk.endLine
    rw [numbered.startLine_eq, numbered.endLine_eq]
    exact Text.lineNumber_mono reaches
  · exact numbered.endLine_eq ▸ source.lineNumber_le _
  · change (Metrics.linesOfCode chunk.content language.commentMarkers : Int) ≤
      chunk.endLine - chunk.startLine + 1
    rw [numbered.startLine_eq]
    omega

end Analysing

/-- Every piece of every chunk that is found starts on the line of its first character and ends on
that of its last character or of its end, depending on how it was cut; so the lines of each record
are lines of the source, and it has no more lines of code than lines. -/
theorem segment_lineNumbers (treeOf : TreeReader) (source file : Text) (options : Options)
    (short : source.Addressable) (spanned : treeOf.SpannedFor source (Path.ofText file).language) :
    ∃ records found groups, segment treeOf source file options = .ok records ∧
      analyse treeOf source (Path.ofText file).language = .ok found ∧
      records = groups.flatten.map
        (Record.ofChunk · (Path.ofText file).language options.calculateComplexity) ∧
      List.Forall₂ (fun chunk pieces =>
        chunk.finalPieces source (Path.ofText file).language options = .ok pieces ∧
          ∀ piece ∈ pieces, piece.Numbered source
            (chunk.endsByCharacter (Path.ofText file).language options)) found groups ∧
      ∀ record ∈ records, record.LinesAgree source := by
  obtain ⟨found, analysed, numbered⟩ := gives_numberedSlice_analyse spanned
  obtain ⟨groups, cut, each⟩ := Gives.mapM fun chunk member =>
    ((numbered chunk member).gives_finalPieces short options).and_of_ok fun pieces equal => equal
  refine ⟨_, found, groups, ?_, analysed, rfl, ?_, ?_⟩
  · rw [segment_eq, analysed]
    simp only [bind, Except.bind, cut]
    rfl
  · exact each.imp fun chunk pieces ⟨slices, equal⟩ =>
      ⟨equal, fun piece member => (slices piece member).toNumbered⟩
  · intro record member
    obtain ⟨piece, inside, rfl⟩ := List.mem_map.1 member
    obtain ⟨pieces, group, here⟩ := List.mem_flatten.1 inside
    obtain ⟨chunk, -, slices, -⟩ := exists_of_mem_forall₂ each group
    exact (slices piece here).linesAgree _ _

/-- A class that is too large, cut into windows of four characters, all of them on one line. -/
theorem segment_lineNumbers_emptyClass :
    ∃ records found groups,
      segment (fun _ _ => emptyClass) "class A \x7b\x7d".toList "a.js".toList
        { maxChunkSize := 4, overlap := 1 } = .ok records ∧
      analyse (fun _ _ => emptyClass) "class A \x7b\x7d".toList
        (Path.ofText "a.js".toList).language = .ok found ∧
      records = groups.flatten.map
        (Record.ofChunk · (Path.ofText "a.js".toList).language true) ∧
      List.Forall₂ (fun chunk pieces =>
        chunk.finalPieces "class A \x7b\x7d".toList (Path.ofText "a.js".toList).language
            { maxChunkSize := 4, overlap := 1 } = .ok pieces ∧
          ∀ piece ∈ pieces, piece.Numbered "class A \x7b\x7d".toList
            (chunk.endsByCharacter (Path.ofText "a.js".toList).language
              { maxChunkSize := 4, overlap := 1 })) found groups ∧
      ∀ record ∈ records, record.LinesAgree "class A \x7b\x7d".toList :=
  segment_lineNumbers _ _ _ { maxChunkSize := 4, overlap := 1 } (by decide)
    fun _ _ _ => emptyClass_fits.spanned

end Segmentation
