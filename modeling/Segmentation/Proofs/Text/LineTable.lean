import Mathlib.Data.Nat.Log
import Segmentation.Proofs.Text.LineNumber
import Segmentation.Proofs.Text.Runs

/-!
# Halving a line table

`Halving` is a run of the search for the line of an offset: the entries that it looks at, one after
the other, and the line at which it ends. A run never leaves the entries between its two ends, each
turn leaves at most half of them, and it ends at the line that the newlines before the offset count.
So the two ways of turning an offset into a line, halving the table and counting newlines, agree.
-/

namespace Segmentation.LineTable

variable {starts : Array Nat} {offset low high line : Nat} {probes : List Nat}

/-! ## A run of the search -/

/-- A run of the search between two entries: it looks at the upper middle one and goes on from there
when this is not behind the offset, and before it otherwise. -/
inductive Halving (starts : Array Nat) (offset : Nat) : Nat → Nat → List Nat → Nat → Prop where
  | done {low high : Nat} (closed : ¬low < high) : Halving starts offset low high [] low
  | upper {low high start line : Nat} {probes : List Nat} (apart : low < high)
      (found : starts[(low + high + 1) / 2]? = some start) (fits : start ≤ offset)
      (rest : Halving starts offset ((low + high + 1) / 2) high probes line) :
      Halving starts offset low high ((low + high + 1) / 2 :: probes) line
  | lower {low high start line : Nat} {probes : List Nat} (apart : low < high)
      (found : starts[(low + high + 1) / 2]? = some start) (exceeds : offset < start)
      (rest : Halving starts offset low ((low + high + 1) / 2 - 1) probes line) :
      Halving starts offset low high ((low + high + 1) / 2 :: probes) line

/-- A run looks only at entries above the low end, and none above the high one. -/
theorem Halving.probes_bounds (run : Halving starts offset low high probes line) :
    ∀ probe ∈ probes, low < probe ∧ probe ≤ high := by
  induction run with
  | done closed => exact List.forall_mem_nil _
  | upper apart found fits rest ih =>
      refine List.forall_mem_cons.2 ⟨by omega, fun probe member => ?_⟩
      have := ih probe member
      omega
  | lower apart found exceeds rest ih =>
      refine List.forall_mem_cons.2 ⟨by omega, fun probe member => ?_⟩
      have := ih probe member
      omega

/-- Each turn leaves at most half of the entries. -/
theorem Halving.length_probes_le (run : Halving starts offset low high probes line) (turns : Nat)
    (narrow : high - low < 2 ^ turns) : probes.length ≤ turns := by
  induction run generalizing turns with
  | done closed => exact Nat.zero_le _
  | upper apart found fits rest ih =>
      cases turns with
      | zero => omega
      | succ turns =>
          rw [Nat.pow_succ] at narrow
          exact Nat.succ_le_succ (ih turns (by omega))
  | lower apart found exceeds rest ih =>
      cases turns with
      | zero => omega
      | succ turns =>
          rw [Nat.pow_succ] at narrow
          exact Nat.succ_le_succ (ih turns (by omega))

/-- The search is such a run, in any table that agrees with the searched one up to the high end. -/
theorem exists_halving {table : Array Nat} (inside : high < starts.size)
    (agree : ∀ index ≤ high, table[index]? = starts[index]?) :
    ∃ probes, Halving table offset low high probes (search starts offset low high inside) := by
  fun_induction search starts offset low high inside with
  | case1 low high inside apart middle below fits ih =>
      obtain ⟨probes, run⟩ := ih agree
      have found := agree middle (by omega)
      rw [Array.getElem?_eq_getElem below] at found
      exact ⟨_, .upper apart found fits run⟩
  | case2 low high inside apart middle below exceeds ih =>
      obtain ⟨probes, run⟩ := ih fun index le => agree index (by omega)
      have found := agree middle (by omega)
      rw [Array.getElem?_eq_getElem below] at found
      exact ⟨_, .lower apart found (Nat.not_le.1 exceeds) run⟩
  | case3 low high inside closed => exact ⟨_, .done closed⟩

/-! ## The table of a text -/

/-- The offsets at which the lines of a table start, without the one behind its last line. -/
def ownStarts (table : LineTable) : Array Nat :=
  table.starts.pop

variable {source : Text} {index : Nat}

theorem size_starts_ofText (source : Text) :
    (ofText source).starts.size = source.lines.length + 1 :=
  (ofText source).size_starts

theorem size_ownStarts (source : Text) : (ofText source).ownStarts.size = source.lines.length := by
  rw [ownStarts, Array.size_pop, size_starts_ofText, Nat.add_sub_cancel]

theorem getElem?_ownStarts (inside : index < source.lines.length) :
    (ofText source).ownStarts[index]? = (ofText source).starts[index]? := by
  rw [ownStarts, Array.getElem?_pop, size_starts_ofText, if_pos (by omega)]

/-- The line of an offset is found by a run over the starts of the lines. -/
theorem exists_halving_lineOf (source : Text) (offset : Nat) :
    ∃ probes, Halving (ofText source).ownStarts offset 0 (source.lines.length - 1) probes
      ((ofText source).lineOf offset) := by
  have hasLine := Text.length_lines_pos source
  have inside : source.lines.length - 1 < (ofText source).starts.size := by
    rw [size_starts_ofText]
    omega
  exact exists_halving inside fun index le => getElem?_ownStarts (by omega)

theorem getD_ownStarts (inside : index < source.lines.length) :
    (ofText source).ownStarts.getD index 0 = Text.lineOffset source.lines index := by
  have start := getElem?_lineStarts source.lines index (Nat.le_of_lt inside)
  rw [Array.getD_eq_getD_getElem?, getElem?_ownStarts inside]
  exact congrArg (·.getD 0) start

theorem lineEnd_bounds (inside : index < source.lines.length) :
    Text.lineOffset source.lines index ≤ (ofText source).lineEnd index ∧
      (ofText source).lineEnd index < Text.lineOffset source.lines (index + 1) ∧
      (ofText source).lineEnd index ≤ source.length := by
  have ends := lineEnd_eq inside
  have forward := Text.lineOffset_lt (Nat.lt_add_one index) inside
  have last := Text.lineOffset_le source.lines (show index + 1 ≤ source.lines.length from inside)
  rw [Text.lineOffset_lines] at last
  omega

/-- As many newlines stand before the end of a line as lines before it. -/
theorem newlines_take_lineEnd (inside : index < source.lines.length) :
    Text.newlines (source.take ((ofText source).lineEnd index)) = index := by
  obtain ⟨low, high, within⟩ := lineEnd_bounds inside
  exact Text.newlines_take_eq within low high

theorem getElem?_lineEnd (inside : index + 1 < source.lines.length) :
    source[(ofText source).lineEnd index]? = some '\n' := by
  have ends := lineEnd_eq (Nat.lt_of_succ_lt inside)
  have here := newlines_take_lineEnd (Nat.lt_of_succ_lt inside)
  obtain ⟨low, high, within⟩ := lineEnd_bounds inside
  have next : Text.newlines (source.take ((ofText source).lineEnd index + 1)) = index + 1 :=
    Text.newlines_take_eq (by omega) (by omega) (by omega)
  have before : (ofText source).lineEnd index < source.length := by omega
  rw [List.take_add_one, Text.newlines_append, here, Nat.add_left_cancel_iff,
    List.getElem?_eq_getElem before, Option.toList_some] at next
  rw [List.getElem?_eq_getElem before]
  have counted : 0 < [source[(ofText source).lineEnd index]].count '\n' :=
    Nat.lt_of_lt_of_eq Nat.one_pos next.symm
  rw [List.mem_singleton.1 (List.count_pos_iff.1 counted)]

theorem lineEnd_last (last : index + 1 = source.lines.length) :
    (ofText source).lineEnd index = source.length := by
  have ends := lineEnd_eq (show index < source.lines.length by omega)
  rw [last, Text.lineOffset_lines] at ends
  omega

theorem slice_ownStarts (inside : index < source.lines.length) :
    source.slice ((ofText source).ownStarts.getD index 0) ((ofText source).lineEnd index) =
      source.lines[index] := by
  have ends := lineEnd_eq inside
  have stop : (ofText source).lineEnd index = Text.lineOffset source.lines (index + 1) - 1 := by
    omega
  rw [getD_ownStarts inside, stop, Text.slice_lineOffset source (Nat.lt_add_one index) inside,
    List.extract_eq_take_drop, Nat.add_sub_cancel_left, List.drop_eq_getElem_cons inside]
  rfl

/-- A table that says of its text what counting newlines says. Its search stays within the table and
takes no more turns than the lines can be halved; a line ends at the newline that has as many others
before it as lines stand before the line, and the last one ends with the text. -/
structure CountsNewlines (table : LineTable) (source : Text) : Prop where
  searches : ∀ offset, ∃ probes,
    Halving table.ownStarts offset 0 (source.lines.length - 1) probes (table.lineOf offset) ∧
      (∀ probe ∈ probes, probe < table.ownStarts.size) ∧
      probes.length ≤ Nat.clog 2 source.lines.length
  lineOf_lt : ∀ offset ≤ source.length, table.lineOf offset < source.lines.length
  lineOf_eq : ∀ offset ≤ source.length, table.lineOf offset = Text.newlines (source.take offset)
  lineAt_eq : ∀ offset ≤ source.length,
    (table.lineOf offset + 1 : Int) = Window.lineAt source offset
  newline : ∀ index, index + 1 < source.lines.length →
    source[table.lineEnd index]? = some '\n' ∧
      Text.newlines (source.take (table.lineEnd index)) = index
  last : ∀ index, index + 1 = source.lines.length → table.lineEnd index = source.length
  slice : ∀ index (inside : index < source.lines.length),
    source.slice (table.ownStarts.getD index 0) (table.lineEnd index) = source.lines[index]

/-- The line table of a text agrees with counting its newlines. -/
theorem ofText_countsNewlines (source : Text) : (ofText source).CountsNewlines source where
  searches offset := by
    have hasLine := Text.length_lines_pos source
    have size := size_ownStarts source
    have halves := Nat.le_pow_clog Nat.one_lt_two source.lines.length
    obtain ⟨probes, run⟩ := exists_halving_lineOf source offset
    refine ⟨probes, run, fun probe member => ?_, run.length_probes_le _ (by omega)⟩
    have := run.probes_bounds probe member
    omega
  lineOf_lt _ inside := (lineOf_bounds inside).1
  lineOf_eq _ inside := lineOf_eq_newlines inside
  lineAt_eq offset inside := by
    rw [Window.lineAt_eq source (Int.natCast_nonneg offset), Text.lineNumber, Int.toNat_natCast,
      lineOf_eq_newlines inside]
  newline index inside :=
    ⟨getElem?_lineEnd inside, newlines_take_lineEnd (Nat.lt_of_succ_lt inside)⟩
  last _ final := lineEnd_last final
  slice _ inside := slice_ownStarts inside

end Segmentation.LineTable
