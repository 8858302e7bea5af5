import Segmentation.Proofs.Segmenter.Groups

/-!
# The stages of a run

A run analyses the source, cuts each chunk that it finds, and makes a record of each piece. Here
this is one equation without the events that a run tells of. It holds for runs that fail, too, so
two runs are compared by comparing what they do stage by stage.
-/

namespace Segmentation

variable {source : Text} {family : Family} {options : Options}

/-- The pieces of a chunk in the end. Plain text is cut into windows that are named by their
numbers, and the chunks of a known language into the pieces that options allow. -/
def Chunk.finalPieces (chunk : Chunk) (source : Text) (language : Language) (options : Options) :
    Except ChunkFailure (List Chunk) :=
  match language.strategy with
  | .none => .ok (chunk.windows source options.maxChunkSize options.overlap true)
  | _ => chunk.bounded source language.family options

/-- Cutting declarations is cutting each of them, whatever is told of it. -/
theorem Told.value_bounded (declarations : Told (List Chunk)) :
    (·.value) <$> declarations.bounded source family options =
      List.flatten <$> declarations.value.mapM (·.bounded source family options) := by
  have quiet : declarations.value.mapM (·.bounded source family options) =
      List.map (·.value) <$> declarations.value.mapM (·.boundedTold source family options) := by
    rw [← List.map_id declarations.value]
    refine (mapM_map_eq fun chunk _ => ?_).trans (by rw [List.map_id])
    rw [id, Chunk.boundedTold]
    cases chunk.bounded source family options <;> rfl
  rw [quiet, Told.bounded]
  cases declarations.value.mapM (·.boundedTold source family options) with
  | error fault => rfl
  | ok cut => exact congrArg Except.ok List.flatMap_def

/-- The final chunks of a run are the pieces of the chunks that it finds. -/
theorem value_segmentsTold (treeOf : TreeReader) (source : Text) (language : Language)
    (options : Options) :
    (·.value) <$> segmentsTold treeOf source language options = (do
      let found ← analyse treeOf source language
      List.flatten <$> found.mapM (·.finalPieces source language options)) := by
  unfold segmentsTold analyse Chunk.finalPieces
  cases language.strategy with
  | none => exact congrArg Except.ok List.flatten_singleton.symm
  | indented => exact Told.value_bounded (Told.ofIndented source)
  | braces grammar =>
      simp only [Told.ofBraces]
      cases Declarations.ofTree source (treeOf grammar source) with
      | error fault => rfl
      | ok outcome =>
          exact Told.value_bounded
            { value := outcome.chunks, events := outcome.events grammar }

/-- A run in three stages. -/
theorem segment_eq (treeOf : TreeReader) (source file : Text) (options : Options) :
    segment treeOf source file options = do
      let found ← analyse treeOf source (Path.ofText file).language
      let groups ← found.mapM (·.finalPieces source (Path.ofText file).language options)
      return groups.flatten.map
        (Record.ofChunk · (Path.ofText file).language options.calculateComplexity) := by
  have quiet := value_segmentsTold treeOf source (Path.ofText file).language options
  have records : segment treeOf source file options =
      List.map (Record.ofChunk · (Path.ofText file).language options.calculateComplexity) <$>
        (·.value) <$> segmentsTold treeOf source (Path.ofText file).language options := by
    rw [segment, segmentTold]
    cases segmentsTold treeOf source (Path.ofText file).language options <;> rfl
  rw [records, quiet]
  cases analyse treeOf source (Path.ofText file).language with
  | error fault => rfl
  | ok found =>
      simp only [bind, Except.bind]
      cases found.mapM (·.finalPieces source (Path.ofText file).language options) <;> rfl

theorem TreeReader.fitsFor_of_indented {language : Language} (treeOf : TreeReader) (source : Text)
    (indented : language.strategy = .indented) : treeOf.FitsFor source language := by
  intro grammar braces
  rw [Language.grammar?, indented] at braces
  exact absurd braces (by simp)

/-- A run over a source succeeds when the tree that it needs fits the source. -/
theorem exists_segment {treeOf : TreeReader} {file : Text} (short : source.Addressable)
    (fits : treeOf.FitsFor source (Path.ofText file).language) (options : Options) :
    ∃ records, segment treeOf source file options = .ok records := by
  have given := gives_segmentsTold short fits options
  obtain ⟨records, equal, -⟩ := gives_segment _ given
  exact ⟨records, equal⟩

end Segmentation
