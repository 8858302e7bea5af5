import Segmentation.Proofs.Declarations.Places
import Segmentation.Proofs.Segmenter.Stages

/-!
# What an option leaves alone

The smallest size that is asked for is advisory, complexity is estimated once the records are made,
and signatures are put in front of parts that are cut as they are without them. So each of these
options shows in fields of its own and nowhere else. Two runs are compared stage by stage here, so
that runs that fail are compared, too.
-/

namespace Segmentation

/-! ## Headings -/

namespace Chunk

variable {chunk : Chunk} {source : Text}

/-- A chunk that holds the text between its offsets, with nothing in front of it. -/
structure IsBare (source : Text) (chunk : Chunk) : Prop where
  content_eq : chunk.content = source.slice chunk.startOffset chunk.endOffset
  heading_eq : chunk.heading = []

/-- A chunk without a heading, and the same chunk with one. -/
structure BareOf (source : Text) (bare headed : Chunk) : Prop extends bare.IsBare source where
  same : headed = { bare with heading := headed.heading }

theorem BareOf.text_eq {bare headed : Chunk} (bareOf : bare.BareOf source headed) :
    bare.text = source.slice bare.startOffset bare.endOffset := by
  rw [text, bareOf.heading_eq, List.nil_append, bareOf.content_eq]

theorem BareOf.text_suffix {bare headed : Chunk} (bareOf : bare.BareOf source headed) :
    bare.text <:+ headed.text := by
  rw [text, text, bareOf.heading_eq, bareOf.same]
  exact List.suffix_append _ _

/-- Pieces without headings, and the same pieces with headings. -/
abbrev BarePieces (source : Text) : List Chunk → List Chunk → Prop :=
  List.Forall₂ (BareOf source)

theorem barePieces_self {pieces : List Chunk} (bare : ∀ piece ∈ pieces, piece.IsBare source) :
    BarePieces source pieces pieces :=
  List.forall₂_same.2 fun piece member => ⟨bare piece member, rfl⟩

theorem isBare_windows (bare : chunk.IsBare source) (maxSize overlap : Int) (nameParts : Bool) :
    ∀ piece ∈ chunk.windows source maxSize overlap nameParts, piece.IsBare source := by
  intro piece member
  unfold windows at member
  split at member
  · obtain rfl := List.mem_singleton.1 member
    exact bare
  · obtain ⟨number, inside, rfl⟩ := List.mem_mapIdx.1 member
    exact ⟨rfl, ite_self _⟩

/-- Parts are cut at the same places whatever is put in front of them. -/
theorem barePieces_pieces (starts : Array Nat) (heading : Text) (ranges : List (Nat × Nat)) :
    BarePieces source (Split.pieces chunk source starts [] ranges)
      (Split.pieces chunk source starts heading ranges) := by
  refine List.forall₂_iff_get.2 ⟨by simp [Split.pieces], fun index inside inside' => ?_⟩
  simp only [Split.pieces, List.get_eq_getElem, List.getElem_mapIdx]
  exact ⟨⟨rfl, ite_self _⟩, rfl⟩

theorem barePieces_split (bare : chunk.IsBare source) (maxSize overlap : Int)
    (preserveSignatures : Bool) (family : Family) :
    SameOutcome (BarePieces source) (chunk.split source maxSize overlap false family)
      (chunk.split source maxSize overlap preserveSignatures family) := by
  unfold split
  split
  · exact .ok (barePieces_self (List.forall_mem_singleton.2 bare))
  · split
    · exact .ok (barePieces_self (isBare_windows bare maxSize overlap false))
    · refine .bind_same fun layout _ => .bind_same fun ranges _ => ?_
      exact .ok (barePieces_pieces layout.starts _ ranges)

theorem barePieces_bounded (bare : chunk.IsBare source) (family : Family) (options : Options)
    (preserveSignatures : Bool) :
    SameOutcome (BarePieces source)
      (chunk.bounded source family { options with preserveSignatures := false })
      (chunk.bounded source family { options with preserveSignatures }) := by
  rw [bounded_eq, bounded_eq]
  split
  · exact .ok (barePieces_self (isBare_windows bare _ _ false))
  · exact barePieces_split bare _ _ preserveSignatures family

theorem barePieces_finalPieces (bare : chunk.IsBare source) (language : Language)
    (options : Options) (preserveSignatures : Bool) :
    SameOutcome (BarePieces source)
      (chunk.finalPieces source language { options with preserveSignatures := false })
      (chunk.finalPieces source language { options with preserveSignatures }) := by
  unfold finalPieces
  cases language.strategy with
  | none => exact .ok (barePieces_self (isBare_windows bare _ _ true))
  | indented | braces grammar =>
      exact barePieces_bounded bare language.family options preserveSignatures

end Chunk

theorem isBare_of_analyse {treeOf : TreeReader} {source : Text} {language : Language}
    {found : List Chunk} (analysed : analyse treeOf source language = .ok found) :
    ∀ chunk ∈ found, chunk.IsBare source := by
  intro chunk member
  unfold analyse at analysed
  split at analysed
  · obtain rfl := Except.ok.inj analysed
    obtain rfl := List.mem_singleton.1 member
    exact ⟨(found_plainText source).slice.content_eq, rfl⟩
  · obtain rfl := Except.ok.inj analysed
    have declared := Indentation.analysed_of_mem_chunks member
    exact ⟨declared.slice.content_eq, declared.isWhole.heading⟩
  · obtain ⟨outcome, made, rfl⟩ := map_eq_ok.1 analysed
    rcases Declarations.spannedBy_of_ofTree made member with
      ⟨kind, name, rfl⟩ | ⟨-, statement, -, inner, -, spanned⟩
    · exact ⟨(Chunk.isSlice_wholeSource kind name source).content_eq, rfl⟩
    · exact ⟨spanned.content_eq, spanned.isWhole.heading⟩

/-! ## Fields of records -/

namespace Record

/-- The text of a record and its metadata, each under its name. -/
def fields (record : Record) : List (String × Json) :=
  ("content", .string record.chunk.text) :: record.metadata

/-- Two records that are the same but for the named fields. -/
def AgreeBut (names : List String) (left right : Record) : Prop :=
  left.fields.filter (·.1 ∉ names) = right.fields.filter (·.1 ∉ names)

variable {chunk : Chunk} {language : Language}

theorem agreeBut_complexity (calculateComplexity : Bool) :
    (ofChunk chunk language false).AgreeBut ["complexity_estimate"]
      (ofChunk chunk language calculateComplexity) := by
  simp [AgreeBut, fields, metadata, ofChunk]

/-- What is read off the bare piece of the source is the same with a heading. -/
theorem agreeBut_heading {source : Text} {bare headed : Chunk} (bareOf : bare.BareOf source headed)
    (calculateComplexity : Bool) :
    (ofChunk bare language calculateComplexity).AgreeBut ["content", "char_count", "preview"]
      (ofChunk headed language calculateComplexity) := by
  rw [bareOf.same]
  simp [AgreeBut, fields, metadata, ofChunk, Metrics.importance, Metrics.halfPoints]

end Record

/-! ## Runs -/

/-- What each option governs. The smallest size governs nothing. The estimate of complexity is one
field, which is one where it is not made. Signatures are put in front of the content of records, and
show there and in its size and preview; without them the content is the piece of the source. Where
the tree fits the source all these runs succeed. -/
structure Switches (treeOf : TreeReader) (source file : Text) (options : Options) : Prop where
  smallestSize : ∀ minChunkSize, segment treeOf source file { options with minChunkSize } =
    segment treeOf source file options
  complexity : SameOutcome
    (List.Forall₂ fun plain estimated => plain.AgreeBut ["complexity_estimate"] estimated ∧
      plain.metadata.lookup "complexity_estimate" = some (.number 1))
    (segment treeOf source file { options with calculateComplexity := false })
    (segment treeOf source file { options with calculateComplexity := true })
  signatures : SameOutcome
    (List.Forall₂ fun bare headed =>
      bare.AgreeBut ["content", "char_count", "preview"] headed ∧
      bare.chunk.text = source.slice bare.chunk.startOffset bare.chunk.endOffset ∧
      bare.chunk.text <:+ headed.chunk.text)
    (segment treeOf source file { options with preserveSignatures := false })
    (segment treeOf source file { options with preserveSignatures := true })
  succeeds : source.Addressable → treeOf.FitsFor source (Path.ofText file).language →
    ∃ records, segment treeOf source file options = .ok records

/-- Each option shows in the fields that it governs and nowhere else. -/
theorem segment_switches (treeOf : TreeReader) (source file : Text) (options : Options) :
    Switches treeOf source file options where
  smallestSize _ := rfl
  complexity := by
    rw [segment_eq, segment_eq]
    refine .bind_same fun found _ => .bind_same fun groups _ => .ok ?_
    rw [List.forall₂_map_left_iff, List.forall₂_map_right_iff]
    exact List.forall₂_same.2 fun chunk _ => ⟨Record.agreeBut_complexity true, rfl⟩
  signatures := by
    rw [segment_eq, segment_eq]
    refine .bind_same fun found analysed => ?_
    have cut := SameOutcome.mapM fun chunk member => Chunk.barePieces_finalPieces
      (isBare_of_analyse analysed chunk member) (Path.ofText file).language options true
    refine cut.bind fun groups groups' each => .ok ?_
    rw [List.forall₂_map_left_iff, List.forall₂_map_right_iff]
    exact (List.rel_flatten each).imp fun bare headed bareOf =>
      ⟨Record.agreeBut_heading bareOf options.calculateComplexity, bareOf.text_eq,
        bareOf.text_suffix⟩
  succeeds short fits := exists_segment short fits options

/-- A function in two parts, of which the second one is read with the signature in front of it or
without. -/
theorem segment_switches_twoParts :
    (segment (fun _ _ => emptyClass) "def f():\n  a\n  b".toList "a.py".toList
        { maxChunkSize := 12, overlap := 0, preserveSignatures := false }).map
          (·.map (·.chunk.text)) = .ok ["def f():".toList, "  a\n  b".toList] ∧
      (segment (fun _ _ => emptyClass) "def f():\n  a\n  b".toList "a.py".toList
        { maxChunkSize := 12, overlap := 0, preserveSignatures := true }).map
          (·.map (·.chunk.text)) = .ok ["def f():".toList, "def f():\n  a\n  b".toList] ∧
      ∃ records, segment (fun _ _ => emptyClass) "def f():\n  a\n  b".toList "a.py".toList
        { maxChunkSize := 12, overlap := 0 } = .ok records := by
  have indented : (Path.ofText "a.py".toList).language.strategy = .indented := by decide +kernel
  have found := Indentation.chunks_eq (List.Perm.refl ((Indentation.allHeaders
    "def f():\n  a\n  b".toList).map (Indentation.chunkOf _ _))) (by decide +kernel)
    (by decide +kernel)
  refine ⟨?_, ?_, (segment_switches _ _ _ { maxChunkSize := 12, overlap := 0 }).succeeds (by decide)
    (TreeReader.fitsFor_of_indented _ _ indented)⟩
  all_goals
    simp only [segment, segmentTold, segmentsTold, indented, Told.ofIndented, found]
    decide +kernel

end Segmentation
