import Segmentation.Proofs.Chunk
import Segmentation.Proofs.Number.Rounding
import Segmentation.Proofs.Outcome
import Segmentation.Proofs.Split.Cut

/-!
# Laying out a content

The numbers of lines that parts aim at and step back over are quotients by the average length of a
line, computed in double precision. A content that is too large is not empty, so its average line
length is never zero; the layout is well-formed as soon as the quotients are finite. For a text
whose positions are machine words they are.
-/

namespace Segmentation

namespace Binary64

/-- Whether the number is neither infinite nor no number. -/
def IsFinite : Binary64 → Prop
  | finite _ _ _ => True
  | _ => False

instance : DecidablePred IsFinite
  | finite _ _ _ => .isTrue trivial
  | infinite _ => .isFalse id
  | nan => .isFalse id

theorem isFinite_iff {number : Binary64} :
    number.IsFinite ↔ ∃ negative mantissa exponent, number = finite negative mantissa exponent := by
  cases number <;> simp [IsFinite]

/-- A rounded quotient has the sign that it is given. -/
theorem eq_of_ofQuotient_eq_finite {negative negative' : Bool}
    {numerator denominator mantissa : Nat} {exponent : Int}
    (equal : ofQuotient negative numerator denominator = finite negative' mantissa exponent) :
    negative' = negative := by
  rcases Nat.eq_zero_or_pos numerator with zero | positive
  · rw [ofQuotient, if_pos zero] at equal
    exact (finite.inj equal).1.symm
  · obtain ⟨mantissa', exponent', -, -, -, rounded⟩ :=
      ofQuotient_cases negative denominator positive
    rw [equal] at rounded
    split at rounded
    · exact (finite.inj rounded).1
    · exact absurd rounded (by simp)

/-- A quotient that is not small is not rounded to zero. -/
theorem isZero_ofQuotient (negative : Bool) {numerator denominator : Nat}
    (denominator_pos : 0 < denominator) (large : 1 / 4 ≤ (numerator : ℚ) / denominator) :
    (ofQuotient negative numerator denominator).isZero = false := by
  have numerator_pos := numerator_pos_of_le large
  obtain ⟨mantissa, exponent, chosen, low, -, equal⟩ :=
    ofQuotient_cases negative denominator numerator_pos
  have positive := unitsOf_pos denominator_pos large
  rw [← chosen] at positive
  rw [equal]
  split
  · rw [isZero, beq_eq_false_iff_ne]
    omega
  · rfl

/-- Finite numbers are those that have a whole part. -/
theorem isFinite_iff_truncate? {number : Binary64} :
    number.IsFinite ↔ ∃ whole, number.truncate? = some whole := by
  cases number with
  | finite negative mantissa exponent => exact ⟨fun _ => ⟨_, rfl⟩, fun _ => trivial⟩
  | infinite negative => simp [IsFinite, truncate?]
  | nan => simp [IsFinite, truncate?]

theorem truncate?_ofQuotient_nonneg {numerator denominator : Nat} {whole : Int}
    (truncated : (ofQuotient false numerator denominator).truncate? = some whole) : 0 ≤ whole := by
  cases number : ofQuotient false numerator denominator with
  | finite negative mantissa exponent =>
      obtain rfl := eq_of_ofQuotient_eq_finite number
      rw [number] at truncated
      rw [← Option.some.inj truncated, if_neg Bool.false_ne_true]
      exact Int.natCast_nonneg _
  | infinite negative =>
      rw [number] at truncated
      exact absurd truncated (by simp [truncate?])
  | nan =>
      rw [number] at truncated
      exact absurd truncated (by simp [truncate?])

theorem truncate?_div_nonneg {mantissa mantissa' : Nat} {exponent exponent' whole : Int}
    (truncated : ((finite false mantissa exponent).div
      (finite false mantissa' exponent')).truncate? = some whole) : 0 ≤ whole := by
  rw [div] at truncated
  split at truncated
  · exact absurd truncated (by simp [truncate?])
  · exact truncate?_ofQuotient_nonneg truncated

theorem zero_div (negative negative' : Bool) (exponent exponent' : Int) {mantissa' : Nat}
    (positive : 0 < mantissa') :
    (finite negative 0 exponent).div (finite negative' mantissa' exponent') =
      finite (negative != negative') 0 leastExponent := by
  have numerator : (toQuotient 0 exponent).1 = 0 := by
    unfold toQuotient
    split <;> simp
  rw [div, if_neg positive.ne']
  change ofQuotient _ ((toQuotient 0 exponent).1 * _) _ = _
  rw [numerator, Nat.zero_mul, ofQuotient, if_pos rfl]

end Binary64

namespace Split

open Binary64

/-- The average length of a line of the content. -/
def averageLine (content : Text) : Binary64 :=
  ofQuotient false content.length content.lines.length

theorem few_lines (content : Text) : content.lines.length ≤ content.length + 1 := by
  rw [Text.length_lines]
  exact Nat.succ_le_succ List.count_le_length

/-- Only an empty content has lines of no length on average. -/
theorem isZero_averageLine {content : Text} (filled : content ≠ []) :
    (averageLine content).isZero = false := by
  have length_pos := List.length_pos_iff.2 filled
  have lines_pos := Text.length_lines_pos content
  have half := half_le_average length_pos lines_pos (few_lines content)
  exact isZero_ofQuotient false lines_pos (by linarith)

/-! ## Numbers of lines -/

theorem wholeLines_eq {size : Int} {average : Binary64} {lines : Int} :
    wholeLines size average = .ok lines ↔
      ((Binary64.ofInt size).div average).truncate? = some lines := by
  unfold wholeLines
  cases Binary64.ofInt size with
  | finite negative mantissa exponent =>
      cases truncated : ((finite negative mantissa exponent).div average).truncate? <;>
        simp [truncated]
  | infinite negative => cases average <;> simp [div, truncate?]
  | nan => cases average <;> simp [div, truncate?]

/-- A size amounts to some number of lines exactly if the quotient is finite. -/
theorem exists_wholeLines_iff {size : Int} {average : Binary64} :
    (∃ lines, wholeLines size average = .ok lines) ↔
      ((Binary64.ofInt size).div average).IsFinite := by
  simp only [wholeLines_eq, isFinite_iff_truncate?]

theorem wholeLines_nonneg {size lines : Int} {mantissa : Nat} {exponent : Int} (nonneg : 0 ≤ size)
    (equal : wholeLines size (finite false mantissa exponent) = .ok lines) : 0 ≤ lines := by
  have truncated := wholeLines_eq.1 equal
  rw [Binary64.ofInt, decide_eq_false (Int.not_lt.2 nonneg)] at truncated
  cases number : ofQuotient false size.natAbs 1 with
  | finite negative' mantissa' exponent' =>
      obtain rfl := eq_of_ofQuotient_eq_finite number
      rw [number] at truncated
      exact truncate?_div_nonneg truncated
  | infinite negative' =>
      rw [number] at truncated
      exact absurd truncated (by simp [div, truncate?])
  | nan =>
      rw [number] at truncated
      exact absurd truncated (by simp [div, truncate?])

theorem wholeLines_zero {lines : Int} {average : Binary64}
    (equal : wholeLines 0 average = .ok lines) : lines = 0 := by
  have truncated := wholeLines_eq.1 equal
  rw [show Binary64.ofInt 0 = finite false 0 leastExponent from rfl] at truncated
  cases average with
  | finite negative mantissa exponent =>
      rcases Nat.eq_zero_or_pos mantissa with rfl | positive
      · exact absurd truncated (by simp [div, truncate?])
      · rw [zero_div false negative leastExponent exponent positive] at truncated
        rw [← Option.some.inj truncated]
        simp
  | infinite negative =>
      rw [← Option.some.inj truncated]
      simp
  | nan => exact absurd truncated (by simp [div, truncate?])

/-! ## Layouts -/

/-- Whether the divisions that lay out a content stay within double precision. -/
structure DivisionsFinite (content : Text) (maxSize overlap : Int) : Prop where
  average : (averageLine content).IsFinite
  perPart : ((Binary64.ofInt maxSize).div (averageLine content)).IsFinite
  stepBack : ((Binary64.ofInt overlap).div (averageLine content)).IsFinite

/-- For texts whose positions are machine words, and sizes that are, the divisions stay within
double precision. -/
theorem divisionsFinite_of_addressable {content : Text} {maxSize overlap : Int}
    (filled : content ≠ []) (short : content.Addressable) (nonneg : 0 ≤ maxSize)
    (small : maxSize < 2 ^ 63) (nonneg' : 0 ≤ overlap) (small' : overlap < 2 ^ 63) :
    DivisionsFinite content maxSize overlap := by
  obtain ⟨mantissa, exponent, average, quarter⟩ :=
    average_finite (List.length_pos_iff.2 filled) short
      (Text.length_lines_pos content) (few_lines content)
  change averageLine content = _ at average
  obtain ⟨perPart, perPartEqual⟩ := wholeLines_average nonneg small quarter
  obtain ⟨stepBack, stepBackEqual⟩ := wholeLines_average nonneg' small' quarter
  rw [← average] at perPartEqual stepBackEqual
  exact ⟨isFinite_iff.2 ⟨_, _, _, average⟩, exists_wholeLines_iff.1 ⟨_, perPartEqual⟩,
    exists_wholeLines_iff.1 ⟨_, stepBackEqual⟩⟩

namespace Layout

variable {content : Text} {maxSize overlap : Int} {family : Family} {layout : Layout}

/-- A content that is not empty is laid out by two divisions by its average line length. -/
theorem ofContent_eq (filled : content ≠ []) (maxSize overlap : Int) (family : Family) :
    ofContent content maxSize overlap family =
      wholeLines maxSize (averageLine content) >>= fun perPart =>
        wholeLines overlap (averageLine content) >>= fun stepBack =>
          .ok ⟨content.lines, (lineStarts content.lines).toArray, maxSize, max 1 perPart, stepBack,
            family⟩ := by
  have nonzero := isZero_averageLine filled
  unfold averageLine at nonzero ⊢
  simp only [ofContent, nonzero, Bool.false_eq_true, if_false]
  generalize ofQuotient false content.length content.lines.length = average
  cases wholeLines maxSize average with
  | error failure => rfl
  | ok perPart => cases wholeLines overlap average <;> rfl

theorem overlapLines_of_ofContent (filled : content ≠ [])
    (layoutOf : ofContent content maxSize overlap family = .ok layout) :
    wholeLines overlap (averageLine content) = .ok layout.overlapLines := by
  rw [ofContent_eq filled] at layoutOf
  obtain ⟨perPart, -, layoutOf⟩ := bind_eq_ok.1 layoutOf
  obtain ⟨stepBack, back, layoutOf⟩ := bind_eq_ok.1 layoutOf
  rw [← Except.ok.inj layoutOf]
  exact back

/-- A content that is not empty and whose lines are small enough has a layout when the divisions
stay within double precision. -/
theorem exists_ofContent (filled : content ≠ []) (family : Family) (nonneg : 0 ≤ overlap)
    (fits : ∀ line ∈ content.lines, (line.length : Int) ≤ maxSize)
    (isFinite : DivisionsFinite content maxSize overlap) :
    ∃ layout, ofContent content maxSize overlap family = .ok layout ∧ layout.WellFormed ∧
      layout.lines = content.lines ∧ layout.maxSize = maxSize := by
  obtain ⟨perPart, perPartEqual⟩ := exists_wholeLines_iff.2 isFinite.perPart
  obtain ⟨stepBack, stepBackEqual⟩ := exists_wholeLines_iff.2 isFinite.stepBack
  have back_nonneg : 0 ≤ stepBack := by
    obtain ⟨negative, mantissa, exponent, average⟩ := isFinite_iff.1 isFinite.average
    obtain rfl := eq_of_ofQuotient_eq_finite average
    rw [average] at stepBackEqual
    exact wholeLines_nonneg nonneg stepBackEqual
  refine ⟨⟨content.lines, (lineStarts content.lines).toArray, maxSize, max 1 perPart, stepBack,
    family⟩, ?_, ?_, rfl, rfl⟩
  · rw [ofContent_eq filled, perPartEqual, stepBackEqual]
    rfl
  · exact ⟨rfl, Text.lines_ne_nil content, fits, Int.le_max_left _ _, back_nonneg⟩

end Layout

end Split

end Segmentation
