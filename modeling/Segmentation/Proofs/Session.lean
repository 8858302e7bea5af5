import Segmentation.Proofs.Outcome
import Segmentation.Session

/-!
# Steps of a session are independent

What a session carries from one step to the next are the options in force, and they are those of the
latest step that has set some. So the answer to a step is known from the step itself, the files that
it reads and the options that it works with. A run over several files is the runs over each of them
up to the first that fails.
-/

namespace Segmentation

/-! ## Runs over files -/

section

variable {treeOf : TreeReader} {folder folder' : Folder} {options : Options}

/-- The files succeed one after the other, each with its records. -/
abbrev FilesSucceed (treeOf : TreeReader) (folder : Folder) (options : Options) :
    List Path → List (List Record) → Prop :=
  List.Forall₂ fun path records => segmentFile treeOf folder path options = .ok records

theorem segmentFiles_append {before : List Path} {groups : List (List Record)}
    (each : FilesSucceed treeOf folder options before groups) (after : List Path) :
    segmentFiles treeOf folder options (before ++ after) =
      { outcome := (groups.flatten ++ ·) <$> (segmentFiles treeOf folder options after).outcome
        tried := before ++ (segmentFiles treeOf folder options after).tried } := by
  induction each with
  | nil =>
      have same : ([] ++ · : List Record → List Record) = id := rfl
      rw [List.flatten_nil, List.nil_append, List.nil_append, same, id_map]
  | @cons path records others groups here later ih =>
      rw [List.cons_append, segmentFiles, here, ih]
      simp only [List.flatten_cons, List.append_assoc, List.cons_append]
      cases (segmentFiles treeOf folder options after).outcome <;> rfl

theorem segmentFile_congr {path : Path} (same : folder.find path = folder'.find path) :
    segmentFile treeOf folder path options = segmentFile treeOf folder' path options := by
  rw [segmentFile, segmentFile, segmentFileTold, segmentFileTold, Folder.readText, Folder.readText,
    Folder.read, Folder.read, same]

theorem segmentFiles_congr {paths : List Path}
    (same : ∀ path ∈ paths, folder.find path = folder'.find path) :
    segmentFiles treeOf folder options paths = segmentFiles treeOf folder' options paths := by
  induction paths with
  | nil => rfl
  | cons path others ih =>
      rw [List.forall_mem_cons] at same
      rw [segmentFiles, segmentFiles, segmentFile_congr same.1, ih same.2]

end

namespace Session

variable {treeOf : TreeReader} {folder folder' : Folder}

/-- What a run over files answers, with the files that it tells of when it is asked to. -/
inductive AnswersFiles (treeOf : TreeReader) (folder : Folder) (options : Options) (tells : Bool) :
    List Path → Answer → Prop where
  | all {paths : List Path} {groups : List (List Record)}
      (each : FilesSucceed treeOf folder options paths groups) :
      AnswersFiles treeOf folder options tells paths
        (.files (.ok groups.flatten) (if tells then paths else []))
  | upTo {before : List Path} {groups : List (List Record)} {path : Path} {fault : RunFault}
      (each : FilesSucceed treeOf folder options before groups)
      (fails : segmentFile treeOf folder path options = .error fault) (after : List Path) :
      AnswersFiles treeOf folder options tells (before ++ path :: after)
        (.files (.error fault) (if tells then before ++ [path] else []))

theorem answersFiles (treeOf : TreeReader) (folder : Folder) (options : Options)
    (paths : List Path) (tells : Bool) :
    AnswersFiles treeOf folder options tells paths
      (answer treeOf folder options (.files paths tells)) := by
  rcases forall_ok_or_first_error (segmentFile treeOf folder · options) paths with
    ⟨groups, each⟩ | ⟨before, path, after, groups, fault, rfl, each, fails⟩
  · have report := segmentFiles_append each []
    rw [List.append_nil] at report
    rw [answer, report]
    simp only [segmentFiles, Functor.map, Except.map, List.append_nil]
    exact .all each
  · rw [answer, segmentFiles_append each, segmentFiles, fails]
    exact .upTo each fails after

/-! ## Options in force -/

/-- The options that a step sets, if it does. -/
def Step.sets? : Step → Option Options
  | .setOptions fields => (optionsOf fields).toOption
  | _ => none

/-- The options in force after steps: those that the latest of them has set, if one has. -/
def inForce (initial : Options) (past : List Step) : Options :=
  (past.filterMap Step.sets?).getLast?.getD initial

theorem optionsAfter_eq (inForce : Options) (step : Step) :
    optionsAfter inForce step = step.sets?.getD inForce := by
  cases step <;> rfl

theorem inForce_cons (initial : Options) (step : Step) (past : List Step) :
    inForce initial (step :: past) = inForce (optionsAfter initial step) past := by
  rw [inForce, inForce, optionsAfter_eq, List.filterMap_cons]
  cases step.sets? with
  | none => rfl
  | some options => rw [List.getLast?_cons]; rfl

/-- The run of a session: each step is answered with the options that those before it leave. -/
theorem answers_eq (initial : Options) (steps : List Step) :
    answers treeOf folder initial steps = steps.mapIdx fun index step =>
      answer treeOf folder (inForce initial (steps.take index)) step := by
  induction steps generalizing initial with
  | nil => rfl
  | cons step steps ih =>
      rw [answers, ih, List.mapIdx_cons]
      simp only [List.take_succ_cons, inForce_cons]
      rfl

theorem answers_append (initial : Options) (before after : List Step) :
    answers treeOf folder initial (before ++ after) =
      answers treeOf folder initial before ++
        answers treeOf folder (inForce initial before) after := by
  induction before generalizing initial with
  | nil => rfl
  | cons step steps ih =>
      rw [List.cons_append, answers, answers, ih, inForce_cons, List.cons_append]

theorem length_answers (initial : Options) (steps : List Step) :
    (answers treeOf folder initial steps).length = steps.length := by
  rw [answers_eq, List.length_mapIdx]

/-- A step that sets no options can be left out, and nothing else is answered differently. -/
theorem eraseIdx_answers {step : Step} (idle : step.sets? = none) (initial : Options)
    (before after : List Step) :
    (answers treeOf folder initial (before ++ step :: after)).eraseIdx before.length =
      answers treeOf folder initial (before ++ after) := by
  have unchanged : optionsAfter (inForce initial before) step = inForce initial before := by
    rw [optionsAfter_eq, idle, Option.getD_none]
  rw [answers_append, answers_append, answers,
    List.eraseIdx_append_of_length_le (Nat.le_of_eq (length_answers initial before)),
    length_answers, Nat.sub_self, List.eraseIdx_cons_zero, unchanged]

/-! ## Answers -/

theorem answer_eq_options_iff {inForce options : Options} {step : Step} :
    answer treeOf folder inForce step = .options options ↔ step.sets? = some options := by
  have ofRecords (outcome : Except RunFault (List Record)) :
      Answer.ofRecords outcome ≠ .options options := by
    cases outcome <;> exact Answer.noConfusion
  cases step with
  | setOptions fields =>
      rw [answer, Step.sets?]
      cases optionsOf fields <;> simp [Except.toOption]
  | text | file => exact iff_of_false (ofRecords _) (by simp [Step.sets?])
  | files => exact iff_of_false Answer.noConfusion (by simp [Step.sets?])

/-- The options that a step works with: its own, or those in force. -/
def Step.optionsUsed (inForce : Options) : Step → Except RunFault Options
  | .setOptions fields => optionsOf fields
  | .text _ _ own | .file _ own => optionsFor inForce own
  | .files _ _ => .ok inForce

/-- The files that a step reads. -/
def Step.reads : Step → List Path
  | .file path _ => [path]
  | .files paths _ => paths
  | .setOptions _ | .text _ _ _ => []

theorem answer_congr {inForce inForce' : Options} {step : Step}
    (options : step.optionsUsed inForce = step.optionsUsed inForce')
    (files : ∀ path ∈ step.reads, folder.find path = folder'.find path) :
    answer treeOf folder inForce step = answer treeOf folder' inForce' step := by
  cases step with
  | setOptions fields => rfl
  | text source file own =>
      simp only [Step.optionsUsed] at options
      rw [answer, answer, options]
  | file path own =>
      simp only [Step.optionsUsed] at options
      rw [answer, answer, options]
      have := files path (List.mem_singleton_self path)
      simp only [segmentFile_congr this]
  | files paths tells =>
      obtain rfl := Except.ok.inj options
      rw [Step.reads] at files
      rw [answer, answer, segmentFiles_congr files]

/-! ## Sessions -/

/-- Steps that do not touch one another. Each is answered by itself, with the options of the latest
step that has set some. A step that sets none, be it that it fails or that it brings options along,
could be left out without any other answer being different. What a step works with, its options and
the files that it reads, is all that its answer depends on. Several files are answered with the
records of all of them in their order, or with the fault of the first file that has one, and the run
has told of the files up to there. -/
structure StepsIndependent (treeOf : TreeReader) (folder : Folder) (initial : Options) : Prop where
  each : ∀ steps, answers treeOf folder initial steps = steps.mapIdx fun index step =>
    answer treeOf folder (inForce initial (steps.take index)) step
  sets_iff : ∀ current step options,
    answer treeOf folder current step = .options options ↔ step.sets? = some options
  left_out : ∀ before step after, step.sets? = none →
    (answers treeOf folder initial (before ++ step :: after)).eraseIdx before.length =
      answers treeOf folder initial (before ++ after)
  determined : ∀ folder' current current' step,
    step.optionsUsed current = step.optionsUsed current' →
    (∀ path ∈ step.reads, folder.find path = folder'.find path) →
    answer treeOf folder current step = answer treeOf folder' current' step
  files : ∀ current paths tells, AnswersFiles treeOf folder current tells paths
    (answer treeOf folder current (.files paths tells))

/-- The steps of every session are independent of one another. -/
theorem answers_independent (treeOf : TreeReader) (folder : Folder) (initial : Options) :
    StepsIndependent treeOf folder initial where
  each := answers_eq initial
  sets_iff _ _ _ := answer_eq_options_iff
  left_out before _ after idle := eraseIdx_answers idle initial before after
  determined _ _ _ _ options files := answer_congr options files
  files := answersFiles treeOf folder

/-- A step with options of its own leaves those in force to the step behind it, and is answered
alike whatever they are. -/
theorem answers_independent_ownOptions :
    Step.sets? (.text "x = 1".toList "a.txt".toList (some {})) = none ∧
      (answers (fun _ _ => default) (.ofFiles []) { maxChunkSize := 4, overlap := 1 }
        [.text "x = 1".toList "a.txt".toList (some {}),
          .text "x = 1".toList "a.txt".toList none]).eraseIdx 0 =
        answers (fun _ _ => default) (.ofFiles []) { maxChunkSize := 4, overlap := 1 }
          [.text "x = 1".toList "a.txt".toList none] ∧
      answer (fun _ _ => default) (.ofFiles []) { maxChunkSize := 4, overlap := 1 }
          (.text "x = 1".toList "a.txt".toList (some {})) =
        answer (fun _ _ => default) (.ofFiles []) {}
          (.text "x = 1".toList "a.txt".toList (some {})) :=
  ⟨rfl, (answers_independent _ _ _).left_out [] _ [_] rfl,
    (answers_independent _ _ {}).determined _ _ _ _ rfl fun _ member =>
      absurd member List.not_mem_nil⟩

end Session

end Segmentation
