import Segmentation.Run

/-!
# Sessions

A session is a list of steps that share the options in force. Only a step that sets options changes
them, and only when it succeeds; options that a step brings along hold for that step alone. So the
answer to a step depends on the step, the files and the options in force, and on nothing else.
-/

namespace Segmentation.Session

/-- A step of a session. A step that is given options of its own does not use those in force. -/
inductive Step where
  | setOptions (fields : Options.Fields)
  | text (source file : Text) (own : Option Options.Fields)
  | file (path : Path) (own : Option Options.Fields)
  /-- Several files in one run, which tells of each file that it tries if it is asked to. -/
  | files (paths : List Path) (tells : Bool)

/-- What a step gives. -/
inductive Answer where
  | options (options : Options)
  | records (records : List Record)
  /-- The records of several files, or the fault of the first one that has one, with the files that
  the run told of. -/
  | files (outcome : Except RunFault (List Record)) (told : List Path)
  | failed (fault : RunFault)

/-- The options that given fields stand for. -/
def optionsOf (fields : Options.Fields) : Except RunFault Options :=
  (Options.ofFields fields).mapError .options

/-- The options for a step: its own, or those in force. -/
def optionsFor (inForce : Options) (own : Option Options.Fields) : Except RunFault Options :=
  match own with
  | none => .ok inForce
  | some fields => optionsOf fields

/-- The records of a step, or its fault. -/
def Answer.ofRecords : Except RunFault (List Record) → Answer
  | .ok found => .records found
  | .error fault => .failed fault

/-- The answer to a step. -/
def answer (treeOf : TreeReader) (folder : Folder) (inForce : Options) : Step → Answer
  | .setOptions fields =>
      match optionsOf fields with
      | .ok options => .options options
      | .error fault => .failed fault
  | .text source file own =>
      .ofRecords do
        let options ← optionsFor inForce own
        (segment treeOf source file options).mapError .chunk
  | .file path own =>
      .ofRecords do
        let options ← optionsFor inForce own
        segmentFile treeOf folder path options
  | .files paths tells =>
      let report := segmentFiles treeOf folder inForce paths
      .files report.outcome (if tells then report.tried else [])

/-- The options in force after a step. -/
def optionsAfter (inForce : Options) : Step → Options
  | .setOptions fields => (optionsOf fields).toOption.getD inForce
  | _ => inForce

/-- The answers to the steps of a session that begins with the given options. -/
def answers (treeOf : TreeReader) (folder : Folder) : Options → List Step → List Answer
  | _, [] => []
  | inForce, step :: steps =>
      answer treeOf folder inForce step ::
        answers treeOf folder (optionsAfter inForce step) steps

end Segmentation.Session
