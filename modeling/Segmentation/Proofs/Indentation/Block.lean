import Mathlib.Data.List.DropRight
import Mathlib.Data.List.GetD
import Segmentation.Indentation.Block

/-!
# Extents of indented blocks

Lines that are neither blank nor comments hold code, and only such a line ends a block or belongs to
its surroundings. The last line of a block is found by what the lines are one by one: all lines of
the block stay inside, the last of them holds code, and a line of code is in the block when
everything up to it stays inside.
-/

namespace Segmentation.Indentation

variable {baseIndent : Int} {lines : List Text} {bodyStart index : Nat}

/-! ## Lines -/

theorem isBlank_of_isIndent {character : Char} (indents : isIndent character) :
    isBlank character := by
  rw [isIndent, Bool.or_eq_true, beq_iff_eq, beq_iff_eq] at indents
  rcases indents with rfl | rfl <;> decide

/-- A line with code is neither blank nor a comment. -/
def IsCode (line : Text) : Prop :=
  isSkippable line = false

instance (line : Text) : Decidable (IsCode line) :=
  inferInstanceAs (Decidable (_ = _))

theorem not_isCode_nil : ¬IsCode [] := by
  decide

theorem lt_length_of_isCode (code : IsCode (lines.getD index [])) : index < lines.length := by
  rcases Nat.lt_or_ge index lines.length with within | outside
  · exact within
  · rw [List.getD_eq_default _ _ outside] at code
    exact absurd code not_isCode_nil

theorem staysInside_of_not_isCode {line : Text} (skipped : ¬IsCode line) (baseIndent : Int) :
    staysInside baseIndent line = true := by
  rw [IsCode, Bool.not_eq_false] at skipped
  rw [staysInside, skipped, Bool.true_or]

theorem IsCode.staysInside_iff {line : Text} (code : IsCode line) (baseIndent : Int) :
    staysInside baseIndent line = true ↔ baseIndent < indentWidth line := by
  rw [staysInside, code, Bool.false_or, decide_eq_true_iff]

theorem staysInside_of_le {baseIndent' : Int} {line : Text} (le : baseIndent ≤ baseIndent')
    (inside : staysInside baseIndent' line = true) : staysInside baseIndent line = true := by
  rcases Decidable.em (IsCode line) with code | skipped
  · rw [code.staysInside_iff] at inside ⊢
    omega
  · exact staysInside_of_not_isCode skipped baseIndent

section

variable {gap rest : Text} {character : Char}

/-- The indentation of a line reaches to its first character that is not blank. -/
theorem indentWidth_eq (blank : ∀ other ∈ gap, isBlank other) (filled : isBlank character = false) :
    indentWidth (gap ++ character :: rest) = gap.length := by
  rw [indentWidth, List.takeWhile_append_of_pos blank,
    List.takeWhile_cons_of_neg (by rw [filled]; exact Bool.false_ne_true), List.append_nil]

/-- A line with a character that is not blank holds code, unless that character starts a comment. -/
theorem isCode_of_first (blank : ∀ other ∈ gap, isBlank other) (filled : isBlank character = false)
    (noComment : character ≠ '#') : IsCode (gap ++ character :: rest) := by
  have start : Text.trimStart (gap ++ character :: rest) = character :: rest := by
    rw [Text.trimStart, List.dropWhile_append_of_pos blank,
      List.dropWhile_cons_of_neg (by rw [filled]; exact Bool.false_ne_true)]
  have trimmed : ∃ others, Text.trim (gap ++ character :: rest) = character :: others := by
    rw [Text.trim, start, Text.trimEnd, List.reverse_cons]
    cases back : rest.reverse.dropWhile isBlank with
    | nil =>
        refine ⟨[], ?_⟩
        rw [List.dropWhile_append, back, List.isEmpty_nil, if_pos rfl,
          List.dropWhile_cons_of_neg (by rw [filled]; exact Bool.false_ne_true)]
        rfl
    | cons first others =>
        refine ⟨(first :: others).reverse, ?_⟩
        rw [List.dropWhile_append, back, List.isEmpty_cons, if_neg Bool.false_ne_true,
          List.reverse_append]
        rfl
  obtain ⟨others, trimmed⟩ := trimmed
  rw [IsCode, isSkippable, trimmed, List.isEmpty_cons, Bool.false_or]
  simpa [Text.startsWith, List.isPrefixOf] using Ne.symm noComment

end

/-! ## Bodies -/

section

variable {body : List Text}

/-- The lines of a block are those that stay inside, up to the last one with code. -/
theorem blockLines_eq (baseIndent : Int) (body : List Text) :
    blockLines baseIndent body =
      (body.takeWhile (staysInside baseIndent)).rdropWhile isSkippable := rfl

theorem isPrefix_blockLines (baseIndent : Int) (body : List Text) :
    blockLines baseIndent body <+: body :=
  (List.rdropWhile_prefix _ _).trans (List.takeWhile_prefix _)

theorem length_blockLines_le (baseIndent : Int) (body : List Text) :
    (blockLines baseIndent body).length ≤ body.length :=
  (isPrefix_blockLines baseIndent body).length_le

theorem getD_blockLines (within : index < (blockLines baseIndent body).length) :
    (blockLines baseIndent body).getD index [] = body.getD index [] := by
  obtain ⟨after, whole⟩ := isPrefix_blockLines baseIndent body
  conv => rhs; rw [← whole]
  rw [List.getD_append _ _ _ _ within]

theorem staysInside_of_lt_length (within : index < (blockLines baseIndent body).length) :
    staysInside baseIndent (body.getD index []) = true := by
  rw [← getD_blockLines within, List.getD_eq_getElem _ _ within]
  refine List.mem_takeWhile_imp (l := body) ?_
  exact (List.rdropWhile_prefix isSkippable _).subset (List.getElem_mem within)

theorem isCode_of_succ_eq_length (last : index + 1 = (blockLines baseIndent body).length) :
    IsCode (body.getD index []) := by
  have within : index < (blockLines baseIndent body).length := by omega
  rw [← getD_blockLines within, List.getD_eq_getElem _ _ within]
  rw [blockLines_eq] at last within
  have notEmpty := List.ne_nil_of_length_pos (Nat.lt_of_le_of_lt (Nat.zero_le index) within)
  have code := List.rdropWhile_last_not isSkippable _ notEmpty
  rw [Bool.not_eq_true, List.getLast_eq_getElem] at code
  simp only [← last, Nat.add_sub_cancel] at code
  exact code

/-- A line of code belongs to a block when everything up to it stays inside. -/
theorem lt_length_blockLines (code : IsCode (body.getD index []))
    (inside : ∀ line ≤ index, staysInside baseIndent (body.getD line []) = true) :
    index < (blockLines baseIndent body).length := by
  have within := lt_length_of_isCode code
  have taken : body.take (index + 1) <+: body.takeWhile (staysInside baseIndent) := by
    conv => rhs; rw [← List.take_append_drop (index + 1) body]
    rw [List.takeWhile_append_of_pos]
    · exact List.prefix_append _ _
    · intro line member
      obtain ⟨position, inTake, rfl⟩ := List.getElem_of_mem member
      rw [List.length_take] at inTake
      have here := inside position (by omega)
      rwa [List.getD_eq_getElem _ _ (by omega), ← List.getElem_take] at here
  have short := taken.length_le
  rw [List.length_take, Nat.min_eq_left within] at short
  have found : (body.takeWhile (staysInside baseIndent))[index]? = some (body.getD index []) := by
    rw [List.getElem?_eq_getElem short, (List.takeWhile_prefix _).getElem short,
      List.getD_eq_getElem _ _ within]
  rw [← List.rdropWhile_append_rtakeWhile (p := isSkippable)
    (l := body.takeWhile (staysInside baseIndent)), ← blockLines_eq] at found
  rcases Nat.lt_or_ge index (blockLines baseIndent body).length with inBlock | behind
  · exact inBlock
  · rw [List.getElem?_append_right behind] at found
    have dropped := List.mem_rtakeWhile_imp (List.mem_of_getElem? found)
    rw [IsCode, dropped] at code
    exact absurd code (by simp)

end

/-! ## Blocks -/

theorem getD_drop (lines : List Text) (count index : Nat) :
    (lines.drop count).getD index [] = lines.getD (count + index) [] := by
  rw [List.getD_eq_getElem?_getD, List.getElem?_drop, ← List.getD_eq_getElem?_getD]

theorem sub_one_le_blockEnd (lines : List Text) (bodyStart : Nat) (baseIndent : Int) :
    (bodyStart : Int) - 1 ≤ blockEnd lines bodyStart baseIndent := by
  rw [blockEnd]
  omega

theorem blockEnd_lt (lines : List Text) (bodyStart : Nat) (baseIndent : Int) :
    blockEnd lines bodyStart baseIndent < max lines.length bodyStart := by
  have block := length_blockLines_le baseIndent (lines.drop bodyStart)
  rw [List.length_drop] at block
  rw [blockEnd]
  omega

/-- A block whose body starts within a text ends with a line of the text. -/
theorem blockEnd_bounds (baseIndent : Int) (inside : bodyStart ≤ lines.length) :
    (bodyStart : Int) - 1 ≤ blockEnd lines bodyStart baseIndent ∧
      blockEnd lines bodyStart baseIndent < lines.length := by
  have high := blockEnd_lt lines bodyStart baseIndent
  exact ⟨sub_one_le_blockEnd lines bodyStart baseIndent, by omega⟩

theorem staysInside_of_le_blockEnd (above : bodyStart ≤ index)
    (within : (index : Int) ≤ blockEnd lines bodyStart baseIndent) :
    staysInside baseIndent (lines.getD index []) = true := by
  rw [blockEnd] at within
  have stays : staysInside baseIndent ((lines.drop bodyStart).getD (index - bodyStart) []) = true :=
    staysInside_of_lt_length (by omega)
  rwa [getD_drop, Nat.add_sub_cancel' above] at stays

theorem isCode_of_eq_blockEnd (above : bodyStart ≤ index)
    (last : (index : Int) = blockEnd lines bodyStart baseIndent) :
    IsCode (lines.getD index []) := by
  rw [blockEnd] at last
  have final : index - bodyStart + 1 = (blockLines baseIndent (lines.drop bodyStart)).length := by
    omega
  have code := isCode_of_succ_eq_length final
  rwa [getD_drop, Nat.add_sub_cancel' above] at code

/-- A line of code belongs to a block when everything from its body on up to it stays inside. -/
theorem le_blockEnd (above : bodyStart ≤ index) (code : IsCode (lines.getD index []))
    (inside : ∀ line, bodyStart ≤ line → line ≤ index →
      staysInside baseIndent (lines.getD line []) = true) :
    (index : Int) ≤ blockEnd lines bodyStart baseIndent := by
  have within : index - bodyStart < (blockLines baseIndent (lines.drop bodyStart)).length := by
    refine lt_length_blockLines (by rwa [getD_drop, Nat.add_sub_cancel' above]) fun line le => ?_
    rw [getD_drop]
    exact inside _ (Nat.le_add_right _ _) (by omega)
  rw [blockEnd]
  omega

end Segmentation.Indentation
