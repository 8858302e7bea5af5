import Segmentation.Proofs.Indentation.Behind
import Segmentation.Proofs.Segmenter.Stages
import Segmentation.Proofs.Split.Plan
import Segmentation.Proofs.Text.LineNumber

/-!
# Records behind other text

A chunk is cut by what it holds, and its pieces are placed from where it starts, so when a chunk
moves its pieces move with it. Declarations move when whole lines on which nothing looks declared
stand in front of their source (`Indentation.chunks_append`), and so do the records of a run.
-/

namespace Segmentation

/-! ## Pieces -/

namespace Chunk

variable {chunk : Chunk} {source : Text} {maxSize overlap : Int} (before : Text)

theorem part_behind {startOffset endOffset : Int} (start_nonneg : 0 ≤ startOffset)
    (stop_nonneg : 0 ≤ endOffset) (number total : Nat) (startLine endLine : Int) (heading : Text) :
    (chunk.behind before).part (before ++ source) number total (startLine + before.newlines)
        (endLine + before.newlines) (startOffset + before.length) (endOffset + before.length)
        heading =
      (chunk.part source number total startLine endLine startOffset endOffset heading).behind
        before := by
  rw [part, Text.slice_append before source start_nonneg stop_nonneg]
  rfl

theorem windows_behind (slice : chunk.IsSlice source) (nonneg : 0 ≤ overlap)
    (less : overlap < maxSize) (nameParts : Bool) :
    (chunk.behind before).windows (before ++ source) maxSize overlap nameParts =
      (chunk.windows source maxSize overlap nameParts).map (Chunk.behind before) := by
  have size : (chunk.behind before).size = chunk.size := rfl
  rcases Int.lt_or_le maxSize chunk.size with large | small
  · have sizeEqual := slice.size_eq
    have first := slice.start_nonneg
    rw [windows, windows, size, if_neg (Int.not_le.2 large), if_neg (Int.not_le.2 large),
      startOffset_behind, endOffset_behind, Window.ranges_add]
    simp only [List.length_map]
    refine mapIdx_map_eq fun number place window => ?_
    obtain ⟨start, stop⟩ := place
    obtain ⟨low, filled, -, -⟩ := Window.ranges_bounds (by omega) (by omega)
      (Window.step_le (by omega) nonneg) _ window
    simp only at low filled ⊢
    have last : stop + before.length - 1 = stop - 1 + before.length := by omega
    rw [last, Window.lineAt_append before source (by omega),
      Window.lineAt_append before source (by omega), part_behind before (by omega) (by omega)]
    rfl
  · rw [windows, windows, size, if_pos small, if_pos small]
    rfl

theorem pieces_behind {starts : Array Nat} {ranges : List (Nat × Nat)} (heading : Text)
    (start_nonneg : 0 ≤ chunk.startOffset) (stops : ∀ range ∈ ranges, 0 < starts.getD range.2 0) :
    Split.pieces (chunk.behind before) (before ++ source) starts heading ranges =
      (Split.pieces chunk source starts heading ranges).map (Chunk.behind before) := by
  refine (congrArg (List.mapIdx _) (List.map_id ranges).symm).trans
    (mapIdx_map_eq fun number range member => ?_)
  obtain ⟨first, stop⟩ := range
  have filled := stops _ member
  simp only [id, startLine_behind, startOffset_behind] at filled ⊢
  rw [← part_behind before (by omega) (by omega)]
  congr 1 <;> omega

/-- However a chunk is cut between its lines or into windows, and whether it can be cut at all, its
pieces move with it. -/
theorem split_behind (slice : chunk.IsSlice source) (nonneg : 0 ≤ overlap)
    (less : overlap < maxSize) (preserveSignatures : Bool) (family : Family) :
    (chunk.behind before).split (before ++ source) maxSize overlap preserveSignatures family =
      List.map (Chunk.behind before) <$>
        chunk.split source maxSize overlap preserveSignatures family := by
  have size : (chunk.behind before).size = chunk.size := rfl
  have content : (chunk.behind before).content = chunk.content := rfl
  have signature : (chunk.behind before).signature = chunk.signature := rfl
  rw [split, split, size, content, signature, windows_behind before slice nonneg less]
  split
  · rfl
  · split
    · rfl
    · cases Split.Layout.ofContent chunk.content maxSize overlap family with
      | error fault => rfl
      | ok layout =>
          cases planned : layout.rangesFrom 0 with
          | error fault => simp only [bind, Except.bind, planned, Functor.map, Except.map]
          | ok ranges =>
              simp only [bind, Except.bind, planned]
              exact congrArg Except.ok (pieces_behind before _ slice.start_nonneg
                (Split.Layout.stop_pos_of_rangesFrom planned))

theorem bounded_behind (slice : chunk.IsSlice source) (family : Family) (options : Options) :
    (chunk.behind before).bounded (before ++ source) family options =
      List.map (Chunk.behind before) <$> chunk.bounded source family options := by
  have wholeFile : (chunk.behind before).isWholeFile = chunk.isWholeFile := rfl
  have less := Int.ofNat_lt.2 options.overlap_lt_maxChunkSize
  have nonneg := Int.natCast_nonneg options.overlap
  rw [bounded_eq, bounded_eq, wholeFile]
  split
  · exact congrArg Except.ok (windows_behind before slice nonneg less false)
  · exact split_behind before slice nonneg less _ family

theorem finalPieces_behind (slice : chunk.IsSlice source) (language : Language)
    (options : Options) :
    (chunk.behind before).finalPieces (before ++ source) language options =
      List.map (Chunk.behind before) <$> chunk.finalPieces source language options := by
  unfold finalPieces
  split
  · exact congrArg Except.ok (windows_behind before slice (Int.natCast_nonneg options.overlap)
      (Int.ofNat_lt.2 options.overlap_lt_maxChunkSize) true)
  · exact bounded_behind before slice language.family options

end Chunk

/-! ## Records -/

/-- The record as it stands when a text is put in front of its source. -/
def Record.behind (before : Text) (record : Record) : Record :=
  { record with chunk := record.chunk.behind before }

/-- A field of a record as it stands when a text is put in front of the source. -/
def Record.fieldBehind (before : Text) : String × Json → String × Json
  | (field, .number value) =>
      (field, .number
        (if field = "start_line" ∨ field = "end_line" then value + before.newlines
        else if field = "start_char" ∨ field = "end_char" then value + before.length
        else value))
  | other => other

/-- Two pairs of fields change when a record moves, and the text of the record stays. -/
theorem Record.toJson_behind (before : Text) (record : Record) :
    (record.behind before).toJson = .object
      [("content", .string record.chunk.text),
        ("metadata", .object (record.metadata.map (fieldBehind before)))] := by
  have optional (field : String) (text : Option Text) :
      fieldBehind before (field, .optional text) = (field, .optional text) := by
    cases text <;> rfl
  simp only [toJson, metadata, List.map_cons, List.map_nil, optional]
  simp [fieldBehind, behind, Chunk.behind, Chunk.text]

/-! ## Runs -/

/-- A source with indented blocks declares something when it has a header. -/
theorem declareNothing_chunks_iff (source : Text) :
    declareNothing (Indentation.chunks source) = false ↔ Indentation.allHeaders source ≠ [] := by
  rw [declareNothing, List.any_eq_false]
  constructor
  · intro declares noHeaders
    refine declares (Chunk.wholeSource .wholeModule "module" source) ?_ rfl
    rw [Indentation.chunks_of_nil noHeaders]
    exact List.mem_singleton_self _
  · intro hasHeaders chunk member
    obtain ⟨located, -, rfl⟩ := (Indentation.mem_chunks_iff hasHeaders).1 member
    change ¬(located.header.kind.chunkKind == .wholeModule) = true
    cases located.header.kind <;> decide

/-- The records of a source with indented blocks that declares something are the same behind whole
lines on which nothing looks declared, but for their lines and offsets, which are further down by
as many lines and characters. -/
theorem segment_behind (treeOf : TreeReader) (before source file : Text) (options : Options)
    (indented : (Path.ofText file).language.family = .indentation)
    (declares : declareNothing (Indentation.chunks source) = false) (whole : before.WholeLines)
    (plain : ∀ line ∈ before.lines, Indentation.looksDeclared line = false) :
    segment treeOf (before ++ source) file options =
        List.map (Record.behind before) <$> segment treeOf source file options ∧
      (source.Addressable → ∃ records, segment treeOf source file options = .ok records) ∧
      ∀ record : Record, (record.behind before).toJson = .object
        [("content", .string record.chunk.text),
          ("metadata", .object (record.metadata.map (Record.fieldBehind before)))] := by
  have strategy : (Path.ofText file).language.strategy = .indented := by
    unfold Language.family at indented
    split at indented <;> simp_all
  have hasHeaders := (declareNothing_chunks_iff source).1 declares
  refine ⟨?moved, fun short => ?succeeds, Record.toJson_behind before⟩
  case moved =>
    have pieces : ((Indentation.chunks source).map (Chunk.behind before)).mapM
        (·.finalPieces (before ++ source) (Path.ofText file).language options) =
          List.map (List.map (Chunk.behind before)) <$> (Indentation.chunks source).mapM
            (·.finalPieces source (Path.ofText file).language options) :=
      mapM_map_eq fun chunk member => Chunk.finalPieces_behind before
        (Indentation.analysed_of_mem_chunks member).slice (Path.ofText file).language options
    rw [segment_eq, segment_eq]
    simp only [analyse, strategy, bind, Except.bind,
      Indentation.chunks_append whole plain hasHeaders, pieces]
    cases (Indentation.chunks source).mapM
        (·.finalPieces source (Path.ofText file).language options) with
    | error fault => rfl
    | ok groups =>
        refine congrArg Except.ok ?_
        rw [← List.map_flatten, List.map_map, List.map_map]
        rfl
  case succeeds => exact exists_segment short (treeOf.fitsFor_of_indented source strategy) options

/-- A function that has to be cut, behind an import and an empty line. -/
theorem segment_behind_import :
    segment (fun _ _ => emptyClass) ("import os\n\n".toList ++ "def f():\n  pass".toList)
        "a.py".toList { maxChunkSize := 8, overlap := 0 } =
      List.map (Record.behind "import os\n\n".toList) <$>
        segment (fun _ _ => emptyClass) "def f():\n  pass".toList "a.py".toList
          { maxChunkSize := 8, overlap := 0 } ∧
      (Text.Addressable "def f():\n  pass".toList →
        ∃ records, segment (fun _ _ => emptyClass) "def f():\n  pass".toList "a.py".toList
          { maxChunkSize := 8, overlap := 0 } = .ok records) ∧
      ∀ record : Record, (record.behind "import os\n\n".toList).toJson = .object
        [("content", .string record.chunk.text),
          ("metadata", .object
            (record.metadata.map (Record.fieldBehind "import os\n\n".toList)))] :=
  segment_behind _ _ _ _ { maxChunkSize := 8, overlap := 0 } (by decide +kernel)
    ((declareNothing_chunks_iff _).2 (by decide +kernel)) (.inr ⟨"import os\n".toList, by decide⟩)
    (by decide +kernel)

end Segmentation
