import Mathlib.Data.Nat.Find
import Segmentation.Indentation.FromEnd
import Segmentation.Proofs.Indentation.Block

/-!
# The last line of a block

`EndsBlock` says which line is the last one of a block without saying how it is found: the code up
to it is indented deeper than the header, it holds code itself unless the block is empty, and the
first code behind it is not indented deeper. No two lines can be so, and the line that the scan
finds is; a header that is indented further never has a block that reaches further.
-/

namespace Segmentation.Indentation

variable {lines : List Text} {bodyStart : Nat} {baseIndent last last' : Int}

/-- The line is the last one of the block whose body starts at `bodyStart`, or the line above the
body when the block is empty. -/
structure EndsBlock (lines : List Text) (bodyStart : Nat) (baseIndent last : Int) : Prop where
  above : (bodyStart : Int) - 1 ≤ last
  below : last < max lines.length bodyStart
  deeper : ∀ index : Nat, bodyStart ≤ index → index ≤ last → IsCode (lines.getD index []) →
    baseIndent < indentWidth (lines.getD index [])
  code : last ≠ bodyStart - 1 → IsCode (lines.getD last.toNat [])
  outside : ∀ index : Nat, last < index → index < lines.length → IsCode (lines.getD index []) →
    (∀ between : Nat, last < between → between < index → ¬IsCode (lines.getD between [])) →
    indentWidth (lines.getD index []) ≤ baseIndent

/-- A line with code comes no later than any other. -/
theorem exists_first_code {index : Nat} (behind : last < index)
    (code : IsCode (lines.getD index [])) :
    ∃ first : Nat, last < first ∧ first ≤ index ∧ IsCode (lines.getD first []) ∧
      ∀ between : Nat, last < between → between < first → ¬IsCode (lines.getD between []) := by
  have codeBehind : ∃ index : Nat, last < index ∧ IsCode (lines.getD index []) :=
    ⟨index, behind, code⟩
  obtain ⟨above, code'⟩ := Nat.find_spec codeBehind
  exact ⟨Nat.find codeBehind, above, Nat.find_min' codeBehind ⟨behind, code⟩, code',
    fun between above' before code'' => Nat.find_min codeBehind before ⟨above', code''⟩⟩

namespace EndsBlock

/-- Behind the end of one block no other one ends: the first code there is not indented deeper. -/
theorem le (ends : EndsBlock lines bodyStart baseIndent last)
    (ends' : EndsBlock lines bodyStart baseIndent last') : last' ≤ last := by
  by_contra further
  rw [Int.not_le] at further
  have above := ends.above
  have code := ends'.code (by omega)
  obtain ⟨first, behind, upTo, code', noCode⟩ :=
    exists_first_code (show last < last'.toNat by omega) code
  have shallow := ends.outside first behind (lt_length_of_isCode code') code' noCode
  have deep := ends'.deeper first (by omega) (by omega) code'
  omega

theorem unique (ends : EndsBlock lines bodyStart baseIndent last)
    (ends' : EndsBlock lines bodyStart baseIndent last') : last = last' :=
  Int.le_antisymm (ends'.le ends) (ends.le ends')

end EndsBlock

/-- Code behind a block, with no code in between, is not indented deeper: otherwise nothing from the
body on up to it would end the block. -/
theorem indentWidth_le_of_blockEnd_lt {index : Nat}
    (behind : blockEnd lines bodyStart baseIndent < index) (code : IsCode (lines.getD index []))
    (noCode : ∀ between : Nat, blockEnd lines bodyStart baseIndent < between → between < index →
      ¬IsCode (lines.getD between [])) :
    indentWidth (lines.getD index []) ≤ baseIndent := by
  by_contra deep
  have above := sub_one_le_blockEnd lines bodyStart baseIndent
  have stays : ∀ line, bodyStart ≤ line → line ≤ index →
      staysInside baseIndent (lines.getD line []) = true := by
    intro line inBody upTo
    rcases Int.lt_or_le (blockEnd lines bodyStart baseIndent) line with outside | within
    · rcases Nat.eq_or_lt_of_le upTo with rfl | before
      · exact (code.staysInside_iff baseIndent).2 (by omega)
      · exact staysInside_of_not_isCode (noCode line outside before) baseIndent
    · exact staysInside_of_le_blockEnd inBody within
  have reached := le_blockEnd (show bodyStart ≤ index by omega) code stays
  omega

/-- The line that the scan finds ends the block. -/
theorem endsBlock_blockEnd (lines : List Text) (bodyStart : Nat) (baseIndent : Int) :
    EndsBlock lines bodyStart baseIndent (blockEnd lines bodyStart baseIndent) where
  above := sub_one_le_blockEnd lines bodyStart baseIndent
  below := blockEnd_lt lines bodyStart baseIndent
  deeper index inBody within code :=
    (code.staysInside_iff baseIndent).1 (staysInside_of_le_blockEnd inBody within)
  code filled := by
    have above := sub_one_le_blockEnd lines bodyStart baseIndent
    have place := Int.toNat_of_nonneg (show 0 ≤ blockEnd lines bodyStart baseIndent by omega)
    exact isCode_of_eq_blockEnd (by omega) place
  outside _ behind _ code noCode := indentWidth_le_of_blockEnd_lt behind code noCode

theorem blockEnd_anti (lines : List Text) (bodyStart : Nat) {baseIndent' : Int}
    (le : baseIndent ≤ baseIndent') :
    blockEnd lines bodyStart baseIndent' ≤ blockEnd lines bodyStart baseIndent := by
  have above := sub_one_le_blockEnd lines bodyStart baseIndent
  have above' := sub_one_le_blockEnd lines bodyStart baseIndent'
  by_contra further
  obtain ⟨last, place⟩ : ∃ last : Nat, (last : Int) = blockEnd lines bodyStart baseIndent' :=
    ⟨_, Int.toNat_of_nonneg (by omega)⟩
  have inBody : bodyStart ≤ last := by omega
  have stays : ∀ line, bodyStart ≤ line → line ≤ last →
      staysInside baseIndent (lines.getD line []) = true := fun line inBody upTo =>
    staysInside_of_le le (staysInside_of_le_blockEnd inBody (by omega))
  have reached := le_blockEnd inBody (isCode_of_eq_blockEnd inBody place) stays
  omega

/-- Scanning for the end of a block finds the one line that ends it, and a deeper header has no
longer block. -/
theorem blockEndFrom_endsBlock (lines : List Text) (bodyStart : Nat) (baseIndent : Int) :
    ∃ last, blockEndFrom lines bodyStart baseIndent = .ok last ∧
      (∀ other, EndsBlock lines bodyStart baseIndent other ↔ other = last) ∧
      ∀ deeper, baseIndent ≤ deeper →
        ∃ last', blockEndFrom lines bodyStart deeper = .ok last' ∧ last' ≤ last := by
  have found := endsBlock_blockEnd lines bodyStart baseIndent
  refine ⟨_, blockEndFrom_natCast lines bodyStart baseIndent, fun other => ?only, fun deeper le =>
    ⟨_, blockEndFrom_natCast lines bodyStart deeper, blockEnd_anti lines bodyStart le⟩⟩
  case only =>
    constructor
    · intro ends
      exact ends.unique found
    · rintro rfl
      exact found

/-- Lines that end with code behind an empty line and a comment, and a comment behind that. -/
def scatteredBody : List Text :=
  ["    a".toList, [], "# b".toList, "  c".toList, "# d".toList, "e".toList]

theorem blockEndFrom_endsBlock_scatteredBody :
    EndsBlock scatteredBody 0 0 3 ∧ (∀ other, EndsBlock scatteredBody 0 0 other → other = 3) ∧
      ∃ last', blockEndFrom scatteredBody 0 2 = .ok last' ∧ last' ≤ 3 := by
  obtain ⟨last, equal, only, anti⟩ := blockEndFrom_endsBlock scatteredBody 0 0
  obtain rfl : (3 : Int) = last := Except.ok.inj (Eq.trans rfl equal)
  exact ⟨(only 3).2 rfl, fun other ends => (only other).1 ends, anti 2 (by decide)⟩

end Segmentation.Indentation
