import Segmentation.Proofs.Declarations.Chunks
import Segmentation.Proofs.Indentation.Declarations
import Segmentation.Proofs.Split.Coverage
import Segmentation.Segmenter

/-!
# Exact and bounded records

Every way of finding chunks gives slices of the source, and every way of cutting them gives smaller
slices. So a run over a source always succeeds, and what it gives is exact, small enough and, for a
source that is not empty, never empty.
-/

namespace Segmentation

variable {source : Text} {options : Options}

namespace Chunk

/-- A chunk before it is brought within any size. -/
structure Found (source : Text) (chunk : Chunk) : Prop where
  slice : chunk.IsSlice source
  nonempty : source ≠ [] → chunk.startOffset < chunk.endOffset

theorem found_wholeSource (kind : ChunkKind) (name : String) (source : Text) :
    (wholeSource kind name source).Found source where
  slice := isSlice_wholeSource kind name source
  nonempty := by
    intro filled
    exact Int.natCast_pos.2 (List.length_pos_iff.2 filled)

theorem found_singleton_wholeSource (kind : ChunkKind) (name : String) (source : Text) :
    [wholeSource kind name source] ≠ [] ∧
      ∀ chunk ∈ [wholeSource kind name source], chunk.Found source :=
  ⟨List.cons_ne_nil _ _, List.forall_mem_singleton.2 (found_wholeSource kind name source)⟩

/-- The pieces of a chunk within a size: the chunk itself, or pieces that it is cut into. -/
inductive BoundedInto (chunk : Chunk) (source : Text) (maxSize : Int) : List Chunk → Prop where
  | whole (small : chunk.size ≤ maxSize) : BoundedInto chunk source maxSize [chunk]
  | pieces {pieces : List Chunk} (large : maxSize < chunk.size)
      (cut : chunk.CutInto source maxSize pieces) : BoundedInto chunk source maxSize pieces

/-- A chunk of the source that options allow. -/
structure Exact (source : Text) (options : Options) (chunk : Chunk) : Prop where
  slice : chunk.IsSlice source
  size_le : chunk.size ≤ options.maxChunkSize
  nonempty : source ≠ [] → chunk.startOffset < chunk.endOffset

variable {chunk : Chunk} {pieces : List Chunk}

theorem BoundedInto.ne_nil {maxSize : Int} (bounded : chunk.BoundedInto source maxSize pieces) :
    pieces ≠ [] := by
  cases bounded with
  | whole small => exact List.cons_ne_nil chunk []
  | pieces large cut => exact cut.nonempty

theorem BoundedInto.exact (bounded : chunk.BoundedInto source options.maxChunkSize pieces)
    (found : chunk.Found source) : ∀ piece ∈ pieces, piece.Exact source options := by
  intro piece member
  cases bounded with
  | whole small =>
      obtain rfl := List.mem_singleton.1 member
      exact ⟨found.slice, Int.ofNat_le.1 small, found.nonempty⟩
  | pieces large cut =>
      refine ⟨cut.isSlice found.slice member, Int.ofNat_le.1 (cut.size_le piece member), ?_⟩
      intro _
      exact (cut.inside piece member).2.1

theorem IsSlice.nonempty_of_lt_size {maxSize : Nat} (slice : chunk.IsSlice source)
    (large : (maxSize : Int) < chunk.size) : chunk.startOffset < chunk.endOffset := by
  have := slice.size_eq
  omega

/-! ## Cutting -/

theorem boundedInto_windows (slice : chunk.IsSlice source) (nameParts : Bool) :
    chunk.BoundedInto source options.maxChunkSize
      (chunk.windows source options.maxChunkSize options.overlap nameParts) := by
  rcases Int.lt_or_le options.maxChunkSize chunk.size with large | small
  · exact .pieces large (cutInto_windows nameParts slice.content_eq
      (slice.nonempty_of_lt_size large) (Int.ofNat_lt.2 options.maxChunkSize_pos)
      (Int.natCast_nonneg _) large)
  · rw [windows, if_pos small]
    exact .whole small

/-- A chunk that stands for a file without declarations is cut into windows, any other one is split,
and both ways leave it alone when it is small enough. -/
theorem bounded_eq (chunk : Chunk) (source : Text) (family : Family) (options : Options) :
    chunk.bounded source family options =
      if chunk.isWholeFile then
        .ok (chunk.windows source options.maxChunkSize options.overlap)
      else
        chunk.split source options.maxChunkSize options.overlap options.preserveSignatures
          family := by
  rw [bounded, division]
  by_cases small : chunk.size ≤ options.maxChunkSize
  · rw [if_pos small, windows, split, if_pos (Int.ofNat_le.2 small), if_pos (Int.ofNat_le.2 small),
      ite_self]
  · rw [if_neg small]
    by_cases wholeFile : chunk.isWholeFile = true
    · rw [if_pos wholeFile, if_pos wholeFile]
    · rw [if_neg wholeFile, if_neg wholeFile]
      cases chunk.content.lines.any (options.maxChunkSize < ·.length) <;> rfl

theorem gives_splitInto (slice : chunk.IsSlice source) (short : source.Addressable)
    (family : Family) (options : Options) :
    Gives (chunk.split source options.maxChunkSize options.overlap options.preserveSignatures
      family) (chunk.SplitInto source options.maxChunkSize options.overlap
        options.preserveSignatures family) :=
  exists_split chunk source options.preserveSignatures family (short.of_slice slice.content_eq)
    (Int.natCast_nonneg _) (Int.ofNat_lt.2 options.overlap_lt_maxChunkSize)

theorem SplitInto.boundedInto {preserveSignatures : Bool} {family : Family}
    (into : chunk.SplitInto source options.maxChunkSize options.overlap preserveSignatures family
      pieces) (slice : chunk.IsSlice source) :
    chunk.BoundedInto source options.maxChunkSize pieces := by
  rcases into.whole_or_large with ⟨small, rfl⟩ | large
  · exact .whole small
  · exact .pieces large (into.cutInto slice.content_eq (slice.nonempty_of_lt_size large)
      (Int.natCast_nonneg _) (Int.ofNat_lt.2 options.overlap_lt_maxChunkSize))

/-- Whichever way a chunk is cut, its pieces are within the size that options allow. -/
theorem gives_bounded (slice : chunk.IsSlice source) (short : source.Addressable)
    (family : Family) (options : Options) :
    Gives (chunk.bounded source family options)
      (chunk.BoundedInto source options.maxChunkSize) := by
  rw [bounded_eq]
  split
  · exact .pure (boundedInto_windows slice false)
  · exact (gives_splitInto slice short family options).imp fun pieces into =>
      into.boundedInto slice

/-- The pieces of the chunk that options allow, or none if it could not be cut. -/
def boundedPieces (chunk : Chunk) (source : Text) (family : Family) (options : Options) :
    List Chunk :=
  (chunk.bounded source family options).toOption.getD []

theorem bounded_eq_ok (slice : chunk.IsSlice source) (short : source.Addressable)
    (family : Family) (options : Options) :
    chunk.bounded source family options = .ok (chunk.boundedPieces source family options) ∧
      chunk.BoundedInto source options.maxChunkSize
        (chunk.boundedPieces source family options) := by
  obtain ⟨pieces, equal, bounded⟩ := gives_bounded slice short family options
  have same : chunk.boundedPieces source family options = pieces := by
    rw [boundedPieces, equal]
    rfl
  rw [same]
  exact ⟨equal, bounded⟩

end Chunk

/-! ## Finding -/

/-- A source in no known language is one chunk. -/
def plainText (source : Text) : Chunk where
  kind := .plainText
  name := "content".toList
  startLine := 1
  endLine := Window.lineAt source (max (source.length - 1 : Int) 0)
  startOffset := 0
  endOffset := source.length
  content := source

theorem found_plainText (source : Text) : (plainText source).Found source := by
  have found := Chunk.found_wholeSource .plainText "content" source
  exact ⟨⟨found.slice.start_nonneg, found.slice.ordered, found.slice.inside,
    found.slice.content_eq⟩, found.nonempty⟩

theorem boundedInto_plainText (source : Text) (options : Options) :
    (plainText source).BoundedInto source options.maxChunkSize
      (Told.ofPlainText source options).value :=
  Chunk.boundedInto_windows (found_plainText source).slice true

theorem found_of_mem_indented (source : Text) :
    Indentation.chunks source ≠ [] ∧ ∀ chunk ∈ Indentation.chunks source, chunk.Found source := by
  rcases Indentation.chunks_cases source with whole | ⟨notEmpty, declared⟩
  · rw [whole]
    exact Chunk.found_singleton_wholeSource _ _ source
  · refine ⟨notEmpty, fun chunk member => ?_⟩
    have declares := declared chunk member
    exact ⟨declares.slice, fun _ => declares.nonempty⟩

theorem gives_found_ofTree {tree : SyntaxTree}
    (fits : tree.info.hasError = false → tree.Fits source) :
    Gives (Declarations.ofTree source tree) fun outcome =>
      outcome.chunks ≠ [] ∧ ∀ chunk ∈ outcome.chunks, chunk.Found source := by
  refine (Declarations.gives_ofTree fun noError => (fits noError).spanned).imp
    fun outcome cases => ?_
  rcases cases with ⟨kind, name, whole⟩ | ⟨noError, notEmpty, found, equal, each⟩
  · rw [whole]
    exact Chunk.found_singleton_wholeSource _ _ source
  · refine ⟨notEmpty, fun chunk member => ?_⟩
    rw [equal] at member
    obtain ⟨made, here, same⟩ := List.mem_filterMap.1 member
    obtain ⟨statement, named, declares⟩ := exists_of_mem_forall₂ each here
    obtain ⟨inner, unwrapped, declared⟩ := declares chunk same
    have innerFits : inner.Fits source :=
      Declarations.all_of_unwrapExports ((fits noError).namedChild named) unwrapped
    exact ⟨declared.isSlice, fun _ => declared.nonempty innerFits⟩

theorem gives_ofBraces {treeOf : TreeReader} {grammar : Grammar}
    (fits : (treeOf grammar source).info.hasError = false →
      (treeOf grammar source).Fits source) :
    Gives (Told.ofBraces treeOf grammar source) fun declarations =>
      declarations.value ≠ [] ∧ ∀ chunk ∈ declarations.value, chunk.Found source :=
  Gives.bind _ (gives_found_ofTree fits) fun _ found => .pure found

/-! ## Runs -/

/-- Cutting declarations gives the pieces of one after those of the other. -/
theorem gives_bounded_told {declarations : Told (List Chunk)} (short : source.Addressable)
    (family : Family) (options : Options)
    (found : ∀ chunk ∈ declarations.value, chunk.Found source) :
    Gives (declarations.bounded source family options) fun told =>
      told.value = declarations.value.flatMap (·.boundedPieces source family options) := by
  have each : ∀ chunk ∈ declarations.value, Gives (chunk.boundedTold source family options)
      fun told => told.value = chunk.boundedPieces source family options := by
    intro chunk member
    have bounded := (Chunk.bounded_eq_ok (found chunk member).slice short family options).1
    exact Gives.bind (· = chunk.boundedPieces source family options) ⟨_, bounded, rfl⟩
      fun pieces same => .pure same
  refine Gives.bind _ (Gives.mapM each) fun cut same => .pure ?_
  exact (flatMap_eq_of_forall₂ same).symm

/-- Chunks that a run may end with. -/
def AllExact (source : Text) (options : Options) (chunks : List Chunk) : Prop :=
  chunks ≠ [] ∧ ∀ chunk ∈ chunks, chunk.Exact source options

theorem allExact_flatMap {declarations : List Chunk} (short : source.Addressable)
    (family : Family) (options : Options) (notEmpty : declarations ≠ [])
    (found : ∀ chunk ∈ declarations, chunk.Found source) :
    AllExact source options (declarations.flatMap (·.boundedPieces source family options)) := by
  constructor
  · intro none
    obtain ⟨chunk, others, rfl⟩ := List.exists_cons_of_ne_nil notEmpty
    have bounded := (Chunk.bounded_eq_ok (found chunk List.mem_cons_self).slice short family
      options).2
    exact bounded.ne_nil (List.append_eq_nil_iff.1 none).1
  · intro piece member
    obtain ⟨chunk, declared, inside⟩ := List.mem_flatMap.1 member
    have bounded := (Chunk.bounded_eq_ok (found chunk declared).slice short family options).2
    exact bounded.exact (found chunk declared) piece inside

/-- Where the language needs a tree of the source, the tree that is made fits it or has an error. -/
def TreeReader.FitsFor (treeOf : TreeReader) (source : Text) (language : Language) : Prop :=
  ∀ grammar, language.grammar? = some grammar → (treeOf grammar source).info.hasError = false →
    (treeOf grammar source).Fits source

theorem gives_segmentsTold {treeOf : TreeReader} {language : Language} (short : source.Addressable)
    (fits : treeOf.FitsFor source language) (options : Options) :
    Gives (segmentsTold treeOf source language options)
      fun told => AllExact source options told.value := by
  unfold segmentsTold
  split
  · have bounded := boundedInto_plainText source options
    exact .pure ⟨bounded.ne_nil, bounded.exact (found_plainText source)⟩
  · obtain ⟨notEmpty, found⟩ := found_of_mem_indented source
    refine (gives_bounded_told short _ options found).imp fun told same => ?_
    rw [same]
    exact allExact_flatMap short _ options notEmpty found
  · next grammar braces =>
      have tree := fits grammar (by simp [Language.grammar?, braces])
      refine Gives.bind _ (gives_ofBraces tree) fun declarations found => ?_
      refine (gives_bounded_told short _ options found.2).imp fun told same => ?_
      rw [same]
      exact allExact_flatMap short _ options found.1 found.2

/-- A record whose chunk options allow, and which is written as its heading and its slice of the
source, with their number of characters. -/
structure Record.Exact (source : Text) (options : Options) (record : Record) : Prop where
  chunk_exact : record.chunk.Exact source options
  written : ∃ metadata, record.toJson = .object [("content", .string (record.chunk.heading ++
      source.slice record.chunk.startOffset record.chunk.endOffset)),
      ("metadata", .object metadata)] ∧
    metadata.lookup "char_count" = some (.number (record.chunk.heading ++
      source.slice record.chunk.startOffset record.chunk.endOffset).length)

theorem Record.exact_ofChunk {chunk : Chunk} (isExact : chunk.Exact source options)
    (language : Language) (calculateComplexity : Bool) :
    (Record.ofChunk chunk language calculateComplexity).Exact source options := by
  refine ⟨isExact, (Record.ofChunk chunk language calculateComplexity).metadata, ?_, ?_⟩
  · simp only [Record.toJson, Record.ofChunk, Chunk.text, isExact.slice.content_eq]
  · simp only [Record.ofChunk, ← isExact.slice.content_eq]
    rfl

/-- The records of a run are those of its final chunks. -/
theorem gives_segment {treeOf : TreeReader} {file : Text} (property : List Chunk → Prop)
    (given : Gives (segmentsTold treeOf source (Path.ofText file).language options)
      fun told => property told.value) :
    Gives (segment treeOf source file options) fun records => ∃ chunks, property chunks ∧
      records = chunks.map
        (Record.ofChunk · (Path.ofText file).language options.calculateComplexity) := by
  obtain ⟨told, equal, holds⟩ := given
  simp only [segment, segmentTold, equal]
  exact .pure ⟨told.value, holds, rfl⟩

/-- A run over a source gives at least one record, and all records are exact: each holds the slice
of the source at its offsets, within the size that options allow, and something of it if there is
anything. -/
theorem segment_exact (treeOf : TreeReader) (source file : Text) (options : Options)
    (short : source.Addressable) (fits : treeOf.FitsFor source (Path.ofText file).language) :
    ∃ records, segment treeOf source file options = .ok records ∧ records ≠ [] ∧
      ∀ record ∈ records, record.Exact source options := by
  have given := gives_segmentsTold short fits options
  obtain ⟨records, equal, chunks, ⟨notEmpty, isExact⟩, rfl⟩ := gives_segment _ given
  refine ⟨_, equal, ?_, fun record member => ?_⟩
  · intro none
    exact notEmpty (List.map_eq_nil_iff.1 none)
  · obtain ⟨chunk, inside, rfl⟩ := List.mem_map.1 member
    exact Record.exact_ofChunk (isExact chunk inside) _ _

/-- The tree of the source `class A {}`. -/
def emptyClass : SyntaxTree :=
  .node ⟨"program", 0, 10, ⟨0, 0⟩, ⟨0, 10⟩, true, false, false, false, none⟩
    [.node ⟨"class_declaration", 0, 10, ⟨0, 0⟩, ⟨0, 10⟩, true, false, false, false, none⟩
      [.node ⟨"class", 0, 5, ⟨0, 0⟩, ⟨0, 5⟩, false, false, false, false, none⟩ [],
        .node ⟨"identifier", 6, 7, ⟨0, 6⟩, ⟨0, 7⟩, true, false, false, false, some "name"⟩ [],
        .node ⟨"class_body", 8, 10, ⟨0, 8⟩, ⟨0, 10⟩, true, false, false, false, some "body"⟩
          [.node ⟨"\x7b", 8, 9, ⟨0, 8⟩, ⟨0, 9⟩, false, false, false, false, none⟩ [],
            .node ⟨"\x7d", 9, 10, ⟨0, 9⟩, ⟨0, 10⟩, false, false, false, false, none⟩ []]]]

theorem emptyClass_fits : emptyClass.Fits "class A \x7b\x7d".toList := by
  refine SyntaxTree.fits_node 0 10 (by decide) (by decide) (List.forall_mem_singleton.2 ?_)
  refine SyntaxTree.fits_node 0 10 (by decide) (by decide) ?_
  simp only [List.forall_mem_cons]
  refine ⟨SyntaxTree.fits_node 0 5 (by decide) (by decide) (List.forall_mem_nil _),
    SyntaxTree.fits_node 6 7 (by decide) (by decide) (List.forall_mem_nil _),
    SyntaxTree.fits_node 8 10 (by decide) (by decide) ?_, List.forall_mem_nil _⟩
  simp only [List.forall_mem_cons]
  exact ⟨SyntaxTree.fits_node 8 9 (by decide) (by decide) (List.forall_mem_nil _),
    SyntaxTree.fits_node 9 10 (by decide) (by decide) (List.forall_mem_nil _),
    List.forall_mem_nil _⟩

/-- A class without members, in a run that allows four characters and thus has to cut it. -/
theorem segment_exact_emptyClass :
    ∃ records, segment (fun _ _ => emptyClass) "class A \x7b\x7d".toList "a.js".toList
        { maxChunkSize := 4, overlap := 1 } = .ok records ∧ records ≠ [] ∧
      ∀ record ∈ records,
        record.Exact "class A \x7b\x7d".toList { maxChunkSize := 4, overlap := 1 } :=
  segment_exact _ _ _ _ (by decide) fun _ _ _ => emptyClass_fits

end Segmentation
