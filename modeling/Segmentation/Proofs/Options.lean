import Segmentation.Proofs.Field
import Segmentation.Proofs.Outcome
import Segmentation.Settings

/-!
# When values make options

`Options.Fit` is the rule for values of options: each keeps its own bound, and the overlap is
smaller than a chunk. Values make options exactly when they fit, and then the options have these
values. When every value keeps its own bound, all that can be wrong is that the overlap is too
large.
-/

namespace Segmentation

namespace Options

/-- The values fit together to options. -/
structure Fit (maxChunkSize overlap minChunkSize : Int) : Prop where
  maxChunkSize_pos : 0 < maxChunkSize
  overlap_nonneg : 0 ≤ overlap
  minChunkSize_nonneg : 0 ≤ minChunkSize
  overlap_lt_maxChunkSize : overlap < maxChunkSize

instance (maxChunkSize overlap minChunkSize : Int) :
    Decidable (Fit maxChunkSize overlap minChunkSize) :=
  decidable_of_iff
    (0 < maxChunkSize ∧ 0 ≤ overlap ∧ 0 ≤ minChunkSize ∧ overlap < maxChunkSize)
    ⟨fun ⟨positive, overlapNonneg, minNonneg, smaller⟩ =>
      ⟨positive, overlapNonneg, minNonneg, smaller⟩,
      fun ⟨positive, overlapNonneg, minNonneg, smaller⟩ =>
      ⟨positive, overlapNonneg, minNonneg, smaller⟩⟩

/-- The values that options have. -/
structure HasValues (options : Options) (maxChunkSize overlap minChunkSize : Int)
    (preserveSignatures calculateComplexity : Bool) : Prop where
  maxChunkSize_eq : (options.maxChunkSize : Int) = maxChunkSize
  overlap_eq : (options.overlap : Int) = overlap
  minChunkSize_eq : (options.minChunkSize : Int) = minChunkSize
  preserveSignatures_eq : options.preserveSignatures = preserveSignatures
  calculateComplexity_eq : options.calculateComplexity = calculateComplexity

section

variable {maxChunkSize overlap minChunkSize : Int} {preserveSignatures calculateComplexity : Bool}

/-- The values are all that there is to options. -/
theorem HasValues.unique {options options' : Options}
    (values : options.HasValues maxChunkSize overlap minChunkSize preserveSignatures
      calculateComplexity)
    (values' : options'.HasValues maxChunkSize overlap minChunkSize preserveSignatures
      calculateComplexity) :
    options = options' := by
  obtain ⟨size, shared, least, signatures, complexity⟩ := values
  obtain ⟨size', shared', least', signatures', complexity'⟩ := values'
  have sameSize : options.maxChunkSize = options'.maxChunkSize := by omega
  have sameOverlap : options.overlap = options'.overlap := by omega
  have sameLeast : options.minChunkSize = options'.minChunkSize := by omega
  cases options
  cases options'
  simp_all

/-- Values that keep their own bounds only have to fit together. -/
theorem ofValues_eq_ofBounded (positive : 0 < maxChunkSize) (overlapNonneg : 0 ≤ overlap)
    (minNonneg : 0 ≤ minChunkSize) :
    ofValues maxChunkSize overlap minChunkSize preserveSignatures calculateComplexity =
      ofBounded maxChunkSize overlap minChunkSize preserveSignatures calculateComplexity := by
  have integer (bound : Bound) {name : String} {default_ value : Int}
      (allowed : bound.Allows value) :
      integerField name bound default_ (some (.integer value)) = .ok value :=
    integerField_integer_eq_ok_iff.2 ⟨rfl, allowed⟩
  have switch {name : String} {default_ value : Bool} :
      booleanField name default_ (some (.flag value)) = .ok value :=
    booleanField_some_eq_ok_iff.2 rfl
  simp only [ofValues, ofFields, integer .positive positive, integer .nonnegative overlapNonneg,
    integer .nonnegative minNonneg, switch]

theorem bounds_of_ofValues {options : Options}
    (made : ofValues maxChunkSize overlap minChunkSize preserveSignatures calculateComplexity =
      .ok options) :
    0 < maxChunkSize ∧ 0 ≤ overlap ∧ 0 ≤ minChunkSize := by
  unfold ofValues ofFields at made
  dsimp only at made
  split at made
  case h_1 size shared least _ _ =>
    obtain ⟨rfl, positive⟩ := integerField_integer_eq_ok_iff.1 size
    obtain ⟨rfl, overlapNonneg⟩ := integerField_integer_eq_ok_iff.1 shared
    obtain ⟨rfl, minNonneg⟩ := integerField_integer_eq_ok_iff.1 least
    exact ⟨positive, overlapNonneg, minNonneg⟩
  case h_2 => cases made

theorem ofBounded_of_lt (minNonneg : 0 ≤ minChunkSize) (overlapNonneg : 0 ≤ overlap)
    (smaller : overlap < maxChunkSize) :
    Gives (ofBounded maxChunkSize overlap minChunkSize preserveSignatures calculateComplexity)
      fun options => options.HasValues maxChunkSize overlap minChunkSize preserveSignatures
        calculateComplexity := by
  refine ⟨_, dif_pos ⟨overlapNonneg, smaller⟩, ?_⟩
  constructor
  · exact Int.toNat_of_nonneg (by omega)
  · exact Int.toNat_of_nonneg overlapNonneg
  · exact Int.toNat_of_nonneg minNonneg
  · rfl
  · rfl

theorem ofValues_of_fit (fit : Fit maxChunkSize overlap minChunkSize) :
    Gives (ofValues maxChunkSize overlap minChunkSize preserveSignatures calculateComplexity)
      fun options => options.HasValues maxChunkSize overlap minChunkSize preserveSignatures
        calculateComplexity := by
  rw [ofValues_eq_ofBounded fit.maxChunkSize_pos fit.overlap_nonneg fit.minChunkSize_nonneg]
  exact ofBounded_of_lt fit.minChunkSize_nonneg fit.overlap_nonneg fit.overlap_lt_maxChunkSize

/-- When each value keeps its own bound, all that can be wrong is that the overlap is too large. -/
theorem ofValues_of_bounds (positive : 0 < maxChunkSize) (overlapNonneg : 0 ≤ overlap)
    (minNonneg : 0 ≤ minChunkSize) (unfit : ¬ Fit maxChunkSize overlap minChunkSize) :
    ofValues maxChunkSize overlap minChunkSize preserveSignatures calculateComplexity =
      .error (.overlapTooLarge overlap maxChunkSize) := by
  have larger : maxChunkSize ≤ overlap := by
    by_contra smaller
    exact unfit ⟨positive, overlapNonneg, minNonneg, Int.lt_of_not_ge smaller⟩
  rw [ofValues_eq_ofBounded positive overlapNonneg minNonneg]
  exact dif_neg fun fits => by omega

theorem ofValues_of_not_fit (unfit : ¬ Fit maxChunkSize overlap minChunkSize) :
    ∃ fault, ofValues maxChunkSize overlap minChunkSize preserveSignatures calculateComplexity =
      .error fault := by
  cases made : ofValues maxChunkSize overlap minChunkSize preserveSignatures
      calculateComplexity with
  | error fault => exact ⟨fault, rfl⟩
  | ok options =>
      obtain ⟨positive, overlapNonneg, minNonneg⟩ := bounds_of_ofValues made
      rw [ofValues_of_bounds positive overlapNonneg minNonneg unfit] at made
      cases made

end

/-- The options have the values that the settings say. -/
def Follow (options : Options) (settings : Settings) : Prop :=
  options.HasValues settings.maxChunkSize settings.chunkOverlap settings.minChunkSize
    settings.preserveSignatures settings.calculateComplexity

end Options

namespace Settings

variable {settings : Settings}

/-- The values of the settings fit together to options. -/
def Fit (settings : Settings) : Prop :=
  Options.Fit settings.maxChunkSize settings.chunkOverlap settings.minChunkSize

instance (settings : Settings) : Decidable settings.Fit :=
  inferInstanceAs
    (Decidable (Options.Fit settings.maxChunkSize settings.chunkOverlap settings.minChunkSize))

theorem toOptions_of_fit (fit : settings.Fit) :
    Gives settings.toOptions fun options => options.Follow settings :=
  Options.ofValues_of_fit fit

theorem toOptions_of_not_fit (unfit : ¬ settings.Fit) :
    ∃ fault, settings.toOptions = .error fault :=
  Options.ofValues_of_not_fit unfit

theorem toOptions_of_bounds (positive : 0 < settings.maxChunkSize)
    (overlapNonneg : 0 ≤ settings.chunkOverlap) (minNonneg : 0 ≤ settings.minChunkSize)
    (unfit : ¬ settings.Fit) :
    settings.toOptions = .error (.overlapTooLarge settings.chunkOverlap settings.maxChunkSize) :=
  Options.ofValues_of_bounds positive overlapNonneg minNonneg unfit

end Settings

end Segmentation
