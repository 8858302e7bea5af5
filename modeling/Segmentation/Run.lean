import Segmentation.Folder
import Segmentation.Segmenter

/-!
# Runs over files

A run over a file reads it and cuts its text into records. It is broken off when the options are not
valid, when the file cannot be read, or when its text cannot be cut.
-/

namespace Segmentation

/-- Why a run is broken off. -/
inductive RunFault where
  | options (fault : OptionsFault)
  | file (fault : FileFault)
  | chunk (failure : ChunkFailure)
  deriving DecidableEq, Repr

/-- The wording of a fault. -/
def RunFault.message : RunFault → Text
  | options fault => fault.message
  | file fault => fault.message
  | chunk failure => failure.message

/-- The records of a file, with the events of the whole run. -/
def segmentFileTold (treeOf : TreeReader) (folder : Folder) (path : Path) (options : Options) :
    Except RunFault (Told (List Record)) := do
  let source ← (folder.readText path).mapError .file
  (segmentTold treeOf source path.toText options).mapError .chunk

/-- The records of a file. -/
def segmentFile (treeOf : TreeReader) (folder : Folder) (path : Path) (options : Options) :
    Except RunFault (List Record) :=
  (·.value) <$> segmentFileTold treeOf folder path options

/-- What came of a list of files: all their records or the fault of the first file that has one, and
the files that were tried. -/
structure FilesReport where
  outcome : Except RunFault (List Record)
  tried : List Path

/-- The records of the files at the given paths, in their order. Nothing is tried after a fault. -/
def segmentFiles (treeOf : TreeReader) (folder : Folder) (options : Options) :
    List Path → FilesReport
  | [] => { outcome := .ok [], tried := [] }
  | path :: others =>
      match segmentFile treeOf folder path options with
      | .error fault => { outcome := .error fault, tried := [path] }
      | .ok records =>
          let report := segmentFiles treeOf folder options others
          { outcome := (records ++ ·) <$> report.outcome, tried := path :: report.tried }

end Segmentation
