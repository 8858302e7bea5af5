import Segmentation.Field

/-!
# Options

The sizes and switches of one run. A value of the type is valid by construction: a chunk may hold at
least one character, and the overlap is smaller than a chunk. Options are made from fields as a
caller gives them.
-/

namespace Segmentation

/-- The sizes and switches of one run. -/
structure Options where
  /-- The largest number of characters of a chunk. -/
  maxChunkSize : Nat := 4000
  /-- How many characters consecutive parts may share. -/
  overlap : Nat := 200
  /-- Advisory: smaller chunks are not merged. -/
  minChunkSize : Nat := 500
  /-- Whether later parts of a chunk begin with its signature. -/
  preserveSignatures : Bool := true
  calculateComplexity : Bool := true
  maxChunkSize_pos : 0 < maxChunkSize := by decide
  overlap_lt_maxChunkSize : overlap < maxChunkSize := by decide
  deriving DecidableEq, Repr

/-- Why options are not valid: the faults of single fields, or, when there are none, two fields that
do not fit together. -/
inductive OptionsFault where
  | fields (faults : FieldFaults)
  | overlapTooLarge (overlap maxChunkSize : Int)
  deriving DecidableEq, Repr

/-- The wording of a fault of two fields. -/
def overlapMessage (overlap maxChunkSize : Int) : Text :=
  "Value error, overlap (".toList ++ Text.ofInt overlap ++
    ") must be smaller than max_chunk_size (".toList ++ Text.ofInt maxChunkSize ++ [')']

/-- The wording of a fault. A fault that belongs to no single field is marked by an asterisk. -/
def OptionsFault.message : OptionsFault → Text
  | fields faults => faults.message
  | overlapTooLarge overlap maxChunkSize =>
      "*: ".toList ++ overlapMessage overlap maxChunkSize

/-- The wording of a fault without the fields that it belongs to. -/
def OptionsFault.wording : OptionsFault → Text
  | fields faults => faults.wording
  | overlapTooLarge overlap maxChunkSize => overlapMessage overlap maxChunkSize

namespace Options

/-- The fields of options as a caller gives them. -/
structure Fields where
  maxChunkSize : Option FieldInput := none
  overlap : Option FieldInput := none
  minChunkSize : Option FieldInput := none
  preserveSignatures : Option FieldInput := none
  calculateComplexity : Option FieldInput := none
  deriving DecidableEq, Repr

/-- The options when nothing is given. -/
def standard : Options := {}

/-- The options with the given values, once each is known to keep its own bound. -/
def ofBounded (maxChunkSize overlap minChunkSize : Int)
    (preserveSignatures calculateComplexity : Bool) : Except OptionsFault Options :=
  if fits : 0 ≤ overlap ∧ overlap < maxChunkSize then
    .ok
      { maxChunkSize := maxChunkSize.toNat
        overlap := overlap.toNat
        minChunkSize := minChunkSize.toNat
        preserveSignatures, calculateComplexity
        maxChunkSize_pos := by omega
        overlap_lt_maxChunkSize := by omega }
  else .error (.overlapTooLarge overlap maxChunkSize)

/-- The options that fields stand for. All faults of single fields are reported, in the order of the
fields; only then do fields have to fit together. -/
def ofFields (fields : Fields) : Except OptionsFault Options :=
  let maxChunkSize :=
    integerField "max_chunk_size" .positive standard.maxChunkSize fields.maxChunkSize
  let overlap := integerField "overlap" .nonnegative standard.overlap fields.overlap
  let minChunkSize :=
    integerField "min_chunk_size" .nonnegative standard.minChunkSize fields.minChunkSize
  let preserveSignatures :=
    booleanField "preserve_signatures" standard.preserveSignatures fields.preserveSignatures
  let calculateComplexity :=
    booleanField "calculate_complexity" standard.calculateComplexity fields.calculateComplexity
  match maxChunkSize, overlap, minChunkSize, preserveSignatures, calculateComplexity with
  | .ok maxChunkSize, .ok overlap, .ok minChunkSize, .ok preserveSignatures,
      .ok calculateComplexity =>
      ofBounded maxChunkSize overlap minChunkSize preserveSignatures calculateComplexity
  | _, _, _, _, _ =>
      .error (.fields (faultsOf maxChunkSize ++ faultsOf overlap ++ faultsOf minChunkSize ++
        faultsOf preserveSignatures ++ faultsOf calculateComplexity))

/-- The options with the given values. -/
def ofValues (maxChunkSize overlap minChunkSize : Int)
    (preserveSignatures calculateComplexity : Bool) : Except OptionsFault Options :=
  ofFields
    { maxChunkSize := some (.integer maxChunkSize)
      overlap := some (.integer overlap)
      minChunkSize := some (.integer minChunkSize)
      preserveSignatures := some (.flag preserveSignatures)
      calculateComplexity := some (.flag calculateComplexity) }

end Options

end Segmentation
