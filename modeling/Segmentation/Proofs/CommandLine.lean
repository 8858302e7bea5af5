import Segmentation.CommandLine
import Segmentation.Proofs.Options

/-!
# Options of a request

A request says some values itself, and the settings say the others: `merged` is what they say
together. The settings are made into options before the request is looked at, so the merged values
decide alone exactly when the settings fit. Settings that do not fit break off the run of every
request, whatever the request says itself.
-/

namespace Segmentation

namespace CommandLine

/-- The settings with what a request says itself in their place. -/
def ChunkRequest.merged (request : ChunkRequest) (settings : Settings) : Settings :=
  { settings with
    maxChunkSize := request.maxChunkSize.getD settings.maxChunkSize
    chunkOverlap := request.overlap.getD settings.chunkOverlap
    preserveSignatures := request.signatures && settings.preserveSignatures }

/-- The request asks for chunks that hold something, and for no negative overlap. -/
structure ChunkRequest.Bounded (request : ChunkRequest) : Prop where
  one_le : ∀ size ∈ request.maxChunkSize, 1 ≤ size
  nonneg : ∀ overlap ∈ request.overlap, 0 ≤ overlap

/-- The file of the request is there, and so is its log once it is created. -/
structure ChunkRequest.Ready (request : ChunkRequest) (folder : Folder) : Prop where
  file : folder.isFile request.file
  log : ∀ path ∈ request.log, ∃ created, folder.create path = .ok created

/-- The merged values decide alone: they are the options if they fit, and else the command line is
refused. -/
structure ChunkRequest.Overrides (request : ChunkRequest) (settings : Settings) : Prop where
  options : (request.merged settings).Fit →
    ∃ options, request.options settings = .ok options ∧ options.Follow (request.merged settings)
  refusal : ¬ (request.merged settings).Fit →
    ∃ fault, request.options settings = .error (.request fault) ∧
      ∀ treeOf folder, request.Ready folder →
        (request.run treeOf settings folder).ending = .refused (.options fault.wording) ∧
          (request.run treeOf settings folder).ending.status = 2

/-! ## What a request says itself -/

theorem le_of_integerAtLeast {least : Int} {text : Option Text} {found : Option Int}
    (read : integerAtLeast least text = .ok found) :
    ∀ value ∈ found, least ≤ value := by
  intro value member
  cases text with
  | none =>
      simp only [integerAtLeast, Except.ok.injEq] at read
      subst read
      cases member
  | some text =>
      simp only [integerAtLeast] at read
      split at read
      · cases read
      · split at read
        · cases read
        · next enough =>
            cases read
            cases member
            exact Int.not_lt.1 enough

/-- Every request that arguments stand for is bounded. -/
theorem ChunkRequest.bounded_of_ofTexts {texts : List Text} {request : ChunkRequest}
    (read : ChunkRequest.ofTexts texts = .ok request) : request.Bounded := by
  simp only [ChunkRequest.ofTexts] at read
  obtain ⟨arguments, -, read⟩ := bind_eq_ok.1 read
  obtain ⟨maxChunkSize, sizeRead, read⟩ := bind_eq_ok.1 read
  obtain ⟨overlap, overlapRead, read⟩ := bind_eq_ok.1 read
  obtain ⟨log, -, read⟩ := bind_eq_ok.1 read
  split at read
  · cases read
  · obtain ⟨file, -, read⟩ := bind_eq_ok.1 read
    cases read
    exact ⟨le_of_integerAtLeast sizeRead, le_of_integerAtLeast overlapRead⟩
  · cases read

/-! ## The options of a request -/

section

variable {request : ChunkRequest} {settings : Settings}

theorem ChunkRequest.Bounded.filter_eq (bounded : request.Bounded) :
    request.maxChunkSize.filter (· ≠ 0) = request.maxChunkSize := by
  cases given : request.maxChunkSize with
  | none => rfl
  | some size =>
      have positive := bounded.one_le size given
      exact if_pos (decide_eq_true (by omega))

/-- Settings that fit let the merged values decide alone. -/
theorem ChunkRequest.options_of_fit (bounded : request.Bounded) (fit : settings.Fit) :
    request.options settings = (request.merged settings).toOptions.mapError .request := by
  obtain ⟨standard, made, follows⟩ := Settings.toOptions_of_fit fit
  simp only [ChunkRequest.options, made, bounded.filter_eq, Except.mapError, bind, Except.bind,
    follows.maxChunkSize_eq, follows.overlap_eq, follows.minChunkSize_eq,
    follows.preserveSignatures_eq, follows.calculateComplexity_eq]
  rfl

/-- Settings that do not fit leave every request without options. -/
theorem ChunkRequest.options_of_not_fit (unfit : ¬ settings.Fit) :
    ∃ fault, request.options settings = .error (.settings fault) := by
  obtain ⟨fault, refused⟩ := Settings.toOptions_of_not_fit unfit
  exact ⟨fault, by simp only [ChunkRequest.options, refused, Except.mapError, bind, Except.bind]⟩

theorem ChunkRequest.Bounded.merged (bounded : request.Bounded) (fit : settings.Fit) :
    0 < (request.merged settings).maxChunkSize ∧ 0 ≤ (request.merged settings).chunkOverlap ∧
      0 ≤ (request.merged settings).minChunkSize := by
  refine ⟨?_, ?_, fit.minChunkSize_nonneg⟩
  · cases given : request.maxChunkSize with
    | none => simpa [ChunkRequest.merged, given] using fit.maxChunkSize_pos
    | some size =>
        have positive := bounded.one_le size given
        simp only [ChunkRequest.merged, given, Option.getD_some]
        omega
  · cases given : request.overlap with
    | none => simpa [ChunkRequest.merged, given] using fit.overlap_nonneg
    | some overlap => simpa [ChunkRequest.merged, given] using bounded.nonneg overlap given

theorem ChunkRequest.run_of_ready {treeOf : TreeReader} {folder : Folder}
    (ready : request.Ready folder) :
    ∃ folder', request.run treeOf settings folder = request.runIn treeOf settings folder' := by
  obtain ⟨file, log⟩ := ready
  cases place : request.log with
  | none => exact ⟨folder, by simp [ChunkRequest.run, file, place]⟩
  | some path =>
      obtain ⟨created, found⟩ := log path place
      exact ⟨created, by simp [ChunkRequest.run, file, place, found]⟩

/-- How a run ends when there are no options. -/
def OptionsRefusal.ending : OptionsRefusal → Ending
  | .settings fault => .brokenOff (.options fault)
  | .request fault => .refused (.options fault.wording)

theorem ChunkRequest.ending_run {treeOf : TreeReader} {folder : Folder} {refusal : OptionsRefusal}
    (ready : request.Ready folder) (refused : request.options settings = .error refusal) :
    (request.run treeOf settings folder).ending = refusal.ending := by
  obtain ⟨folder', inFolder⟩ := @run_of_ready _ settings treeOf _ ready
  rw [inFolder]
  cases refusal with
  | settings fault => simp only [ChunkRequest.runIn, refused, OptionsRefusal.ending]
  | request fault => simp only [ChunkRequest.runIn, refused, OptionsRefusal.ending]

/-- Merged values that do not fit are refused, and so is the command line. -/
theorem ChunkRequest.overrides_of_fit (bounded : request.Bounded) (fit : settings.Fit) :
    request.Overrides settings := by
  constructor
  · intro merged
    obtain ⟨options, made, follows⟩ := Settings.toOptions_of_fit merged
    refine ⟨options, ?_, follows⟩
    rw [options_of_fit bounded fit, made]
    rfl
  · intro unfit
    obtain ⟨fault, refused⟩ := Settings.toOptions_of_not_fit unfit
    have noOptions : request.options settings = .error (.request fault) := by
      rw [options_of_fit bounded fit, refused]
      rfl
    refine ⟨fault, noOptions, ?_⟩
    intro treeOf folder ready
    rw [ending_run ready noOptions]
    exact ⟨rfl, rfl⟩

theorem ChunkRequest.fit_of_overrides (overrides : request.Overrides settings) : settings.Fit := by
  by_contra unfit
  obtain ⟨fault, refused⟩ := @options_of_not_fit request _ unfit
  by_cases merged : (request.merged settings).Fit
  · obtain ⟨options, made, -⟩ := overrides.options merged
    rw [refused] at made
    cases made
  · obtain ⟨fault', refused', -⟩ := overrides.refusal merged
    rw [refused] at refused'
    cases refused'

end

/-- How a request can fail for its options. With settings that fit, all that can be refused is an
overlap that is too large; with others, every run is broken off. -/
structure ChunkRequest.Fails (request : ChunkRequest) (settings : Settings) : Prop where
  refused : settings.Fit → ¬ (request.merged settings).Fit →
    request.options settings = .error (.request (.overlapTooLarge
      (request.merged settings).chunkOverlap (request.merged settings).maxChunkSize))
  brokenOff : ¬ settings.Fit →
    ∃ fault, request.options settings = .error (.settings fault) ∧
      ∀ treeOf folder, request.Ready folder →
        (request.run treeOf settings folder).ending = .brokenOff (.options fault) ∧
          (request.run treeOf settings folder).ending.status = 1

/-- The merged values decide alone exactly when the settings fit. -/
theorem ChunkRequest.overrides_iff {request : ChunkRequest} {settings : Settings}
    (bounded : request.Bounded) :
    (request.Overrides settings ↔ settings.Fit) ∧ request.Fails settings := by
  refine ⟨⟨fit_of_overrides, overrides_of_fit bounded⟩, ?refused, ?brokenOff⟩
  case refused =>
    intro fit unfit
    obtain ⟨positive, overlapNonneg, minNonneg⟩ := bounded.merged fit
    rw [options_of_fit bounded fit,
      Settings.toOptions_of_bounds positive overlapNonneg minNonneg unfit]
    rfl
  case brokenOff =>
    intro unfit
    obtain ⟨fault, refused⟩ := @options_of_not_fit request _ unfit
    refine ⟨fault, refused, ?_⟩
    intro treeOf folder ready
    rw [ending_run ready refused]
    exact ⟨rfl, rfl⟩

/-- A request for the records of a file that says only its sizes itself. -/
def sizedRequest (maxChunkSize overlap : Option Int) : ChunkRequest where
  file := .ofText "a.py".toList
  maxChunkSize := maxChunkSize
  overlap := overlap
  signatures := true
  asJson := false
  log := none

/-- A folder with nothing but an empty file. -/
def oneFile : Folder :=
  .ofFiles [(.ofText "a.py".toList, [])]

theorem ChunkRequest.overrides_iff_sizedRequest :
    (sizedRequest (some 100) none).Bounded ∧
      ((sizedRequest (some 100) none).Overrides Settings.standard ↔ Settings.standard.Fit) ∧
      (sizedRequest (some 100) none).options Settings.standard =
        .error (.request (.overlapTooLarge 200 100)) ∧
      ∀ treeOf, ((sizedRequest (some 100) none).run treeOf Settings.standard
        oneFile).ending.status = 2 := by
  have bounded : (sizedRequest (some 100) none).Bounded := ⟨by decide, by decide⟩
  have ready : (sizedRequest (some 100) none).Ready oneFile := by
    constructor
    · decide
    · intro path log
      cases log
  obtain ⟨decides, fails⟩ := @overrides_iff _ Settings.standard bounded
  obtain ⟨fault, -, refused⟩ := (decides.2 (by decide)).refusal (by decide)
  exact ⟨bounded, decides, fails.refused (by decide) (by decide),
    fun treeOf => (refused treeOf oneFile ready).2⟩

/-- Settings whose overlap is too large for their chunks. -/
def smallChunks : Settings where
  maxChunkSize := 100

/-- With settings that do not fit, a request whose own overlap would be small enough has no options,
and a request that says nothing is not refused but broken off. -/
theorem ChunkRequest.options_smallChunks :
    (((sizedRequest none (some 50)).merged smallChunks).Fit ∧
      (sizedRequest none (some 50)).options smallChunks =
        .error (.settings (.overlapTooLarge 200 100))) ∧
    (¬ ((sizedRequest none none).merged smallChunks).Fit ∧
      ∀ treeOf, ((sizedRequest none none).run treeOf smallChunks oneFile).ending.status = 1) ∧
    ¬ ∀ (request : ChunkRequest) (settings : Settings),
      request.Bounded → request.Overrides settings := by
  have refused : (sizedRequest none (some 50)).options smallChunks =
      .error (.settings (.overlapTooLarge 200 100)) := rfl
  have fits : ((sizedRequest none (some 50)).merged smallChunks).Fit := by decide
  refine ⟨⟨fits, refused⟩, ⟨by decide, fun _ => rfl⟩, ?_⟩
  intro always
  obtain ⟨options, made, -⟩ := (always _ smallChunks ⟨by decide, by decide⟩).options fits
  rw [refused] at made
  cases made

end CommandLine

end Segmentation
