import Mathlib.Data.List.GetD
import Mathlib.Data.Nat.Find
import Segmentation.DocComment
import Segmentation.Proofs.Text.Marks

/-!
# The documentation above a declaration

The documentation of a declaration is the nearest block comment above it that opens with the
documentation mark, with nothing but blank and comment lines in between. The search for it goes
upwards line by line and judges each by its first characters alone. It does not know yet that a line
is inside a comment when it meets it, and it does not ask whether the comment that it finds is
closed. So it finds the documentation exactly when the lines inside the comment look like comment
lines, too, and no comment on its way is left open or has something behind it.
-/

namespace Segmentation.DocComment

variable {lines : List Text} {header first last index : Nat} {found : Option Text}

/-! ## Blocks of documentation -/

/-- A line that opens a documentation comment. -/
def opensBlock (line : Text) : Bool :=
  line.trim.startsWith "/**"

/-- Whether only blanks stand behind the first closing mark of a line. -/
def closesBlock (line : Text) : Bool :=
  (Text.cutAt? "*/" line).any fun (_, rest) => rest.all isBlank

/-- A line that may stand between documentation and its declaration: it is blank or looks like one
of a comment. -/
def mayStandBetween (line : Text) : Bool :=
  line.trim.isEmpty || line.trim.startsWithAny ["*", "//", "/*"]

/-- A documentation comment for the declaration on the line `header`: it opens on the line `first`,
closes on the line `last`, and has no code around it. -/
structure IsBlock (lines : List Text) (header first last : Nat) : Prop where
  ordered : first ≤ last
  above : last < header
  near : header ≤ first + lookback
  opens : opensBlock (lines.getD first [])
  unclosed : ∀ line < last, first ≤ line → (lines.getD line []).contains "*/" = false
  closes : closesBlock (lines.getD last [])
  between : ∀ line < header, last < line → mayStandBetween (lines.getD line [])

instance (lines : List Text) (header first last : Nat) :
    Decidable (IsBlock lines header first last) :=
  decidable_of_iff (first ≤ last ∧ last < header ∧ header ≤ first + lookback ∧
    opensBlock (lines.getD first []) ∧
    (∀ line < last, first ≤ line → (lines.getD line []).contains "*/" = false) ∧
    closesBlock (lines.getD last []) ∧
    ∀ line < header, last < line → mayStandBetween (lines.getD line []))
    ⟨fun ⟨ordered, above, near, opens, unclosed, closes, between⟩ =>
      ⟨ordered, above, near, opens, unclosed, closes, between⟩,
    fun ⟨ordered, above, near, opens, unclosed, closes, between⟩ =>
      ⟨ordered, above, near, opens, unclosed, closes, between⟩⟩

/-- The documentation comment that is nearest to the declaration. -/
structure IsNearest (lines : List Text) (header first last : Nat) : Prop
    extends IsBlock lines header first last where
  nearest : ∀ first' last', IsBlock lines header first' last' → first' ≤ first

/-- The text of the lines from `first` to `last`. -/
def blockText (lines : List Text) (first last : Nat) : Text :=
  (Text.joinLines (lines.extract first (last + 1))).trim

/-- What the documentation of a declaration is: the text of the nearest block, if there is one. -/
structure Documents (lines : List Text) (header : Nat) (found : Option Text) : Prop where
  eq_blockText : ∀ first last, IsNearest lines header first last →
    found = some (blockText lines first last)
  eq_none : (∀ first last, ¬IsBlock lines header first last) → found = none

theorem exists_nearest (block : IsBlock lines header first last) :
    ∃ first last, IsNearest lines header first last := by
  classical
  let opening (line : Nat) : Prop := ∃ last, IsBlock lines header line last
  have inside {first last : Nat} (block : IsBlock lines header first last) : first ≤ header :=
    Nat.le_trans block.ordered (Nat.le_of_lt block.above)
  obtain ⟨last', block'⟩ : opening (Nat.findGreatest opening header) :=
    Nat.findGreatest_spec (inside block) ⟨last, block⟩
  refine ⟨_, last', block', fun first'' last'' block'' => ?_⟩
  exact Nat.le_findGreatest (inside block'') ⟨last'', block''⟩

/-! ## Runs of lines -/

theorem reverse_take_succ (here : index < lines.length) (budget : Nat) :
    (lines.take (index + 1)).reverse.take (budget + 1) =
      lines[index] :: (lines.take index).reverse.take budget := by
  rw [List.take_succ_eq_append_getElem here, List.reverse_append, List.reverse_singleton,
    List.singleton_append, List.take_succ_cons]

theorem extract_cons (above : index < header) (here : index < lines.length) :
    lines[index] :: lines.extract (index + 1) header = lines.extract index header := by
  rw [List.extract_eq_take_drop, List.extract_eq_take_drop, List.drop_eq_getElem_cons here,
    show header - index = header - (index + 1) + 1 by omega, List.take_succ_cons]

theorem forall_mem_extract {property : Text → Prop} (inside : last ≤ lines.length)
    (each : ∀ line < last, first ≤ line → property (lines.getD line [])) :
    ∀ line ∈ lines.extract first last, property line := by
  intro line member
  rw [List.extract_eq_take_drop] at member
  obtain ⟨index, within, rfl⟩ := List.getElem_of_mem member
  rw [List.length_take, List.length_drop] at within
  have here := each (first + index) (by omega) (Nat.le_add_right first index)
  rw [List.getD_eq_getElem _ _ (by omega)] at here
  rwa [List.getElem_take, List.getElem_drop]

theorem extract_succ (ordered : first ≤ last) (inside : last < lines.length) :
    lines.extract first (last + 1) = lines.extract first last ++ [lines.getD last []] := by
  rw [List.extract_eq_take_drop, List.extract_eq_take_drop, Nat.succ_sub ordered,
    List.take_succ_eq_append_getElem (by rw [List.length_drop]; omega), List.getElem_drop,
    List.getD_eq_getElem _ _ inside]
  simp only [Nat.add_sub_cancel' ordered]

/-! ## The search -/

/-- The line at which the search upwards stops: it opens a documentation comment, and no line below
it either does so or may not stand in between. -/
structure StopsAt (lines : List Text) (header first : Nat) : Prop where
  above : first < header
  near : header ≤ first + lookback
  opens : opensBlock (lines.getD first [])
  passed : ∀ line < header, first < line →
    opensBlock (lines.getD line []) = false ∧ mayStandBetween (lines.getD line [])

theorem searchUp_cons (below : List Text) (line : Text) (others : List Text) :
    searchUp below (line :: others) =
      if opensBlock line then some (Text.joinLines (throughClosing (line :: below))).trim
      else if mayStandBetween line then searchUp (line :: below) others
      else none := rfl

/-- From any line on its way, the search goes on to the nearest opening line above it. -/
theorem searchUp_eq_some_iff (inside : header ≤ lines.length) {budget : Nat}
    (within : index ≤ header) {text : Text} :
    searchUp (lines.extract index header) ((lines.take index).reverse.take budget) = some text ↔
      ∃ first < index, index ≤ first + budget ∧ opensBlock (lines.getD first []) ∧
        (∀ line < index, first < line →
          opensBlock (lines.getD line []) = false ∧ mayStandBetween (lines.getD line [])) ∧
        text = (Text.joinLines (throughClosing (lines.extract first header))).trim := by
  induction index generalizing budget with
  | zero => simp [searchUp]
  | succ index ih =>
      have here : index < lines.length := Nat.lt_of_lt_of_le within inside
      have line : lines.getD index [] = lines[index] := List.getD_eq_getElem _ _ here
      cases budget with
      | zero =>
          simp only [List.take_zero, searchUp, reduceCtorEq, false_iff, not_exists, not_and]
          intro first above near
          omega
      | succ budget =>
          rw [reverse_take_succ here, searchUp_cons,
            extract_cons (Nat.lt_of_succ_le within) here, ← line]
          split
          · next opens =>
              rw [Option.some.injEq]
              constructor
              · rintro rfl
                exact ⟨index, by omega, by omega, opens, fun other _ _ => by omega, rfl⟩
              · rintro ⟨first, above, -, -, passed, rfl⟩
                rcases Nat.lt_or_ge first index with further | same
                · have closed := (passed index (by omega) further).1
                  rw [opens] at closed
                  exact absurd closed (by simp)
                · rw [show first = index by omega]
          · next closed =>
              split
              · next between =>
                  rw [ih (Nat.le_of_succ_le within)]
                  constructor
                  · rintro ⟨first, above, near, opens, passed, rfl⟩
                    refine ⟨first, by omega, by omega, opens, fun other below behind => ?_, rfl⟩
                    rcases Nat.lt_or_ge other index with before | same
                    · exact passed other before behind
                    · rw [show other = index by omega]
                      exact ⟨Bool.eq_false_iff.2 closed, between⟩
                  · rintro ⟨first, above, near, opens, passed, rfl⟩
                    have further : first ≠ index := by
                      rintro rfl
                      exact closed opens
                    exact ⟨first, by omega, by omega, opens,
                      fun other below behind => passed other (by omega) behind, rfl⟩
              · next blocks =>
                  simp only [reduceCtorEq, false_iff, not_exists, not_and]
                  intro first above _ opens passed
                  rcases Nat.lt_or_ge first index with further | same
                  · exact absurd (passed index (by omega) further).2 blocks
                  · rw [show first = index by omega] at opens
                    exact absurd opens closed

/-- What is found above a declaration: the text from the line at which the search stops on, up to a
closing mark or the declaration. -/
theorem exists_above {startLine : Nat} (inside : startLine ≤ lines.length) :
    ∃ found, above lines startLine = .ok found ∧ ∀ text, found = some text ↔
      ∃ first, StopsAt lines (startLine - 1) first ∧
        text = (Text.joinLines (throughClosing (lines.extract first (startLine - 1)))).trim := by
  have bound : ¬lines.length < startLine - 1 := by omega
  refine ⟨_, by rw [above, if_neg bound], fun text => ?_⟩
  have start : lines.extract (startLine - 1) (startLine - 1) = [] := by simp
  rw [← start, searchUp_eq_some_iff (by omega) (Nat.le_refl _)]
  constructor
  · rintro ⟨first, above, near, opens, passed, rfl⟩
    exact ⟨first, ⟨above, near, opens, passed⟩, rfl⟩
  · rintro ⟨first, ⟨above, near, opens, passed⟩, rfl⟩
    exact ⟨first, above, near, opens, passed, rfl⟩

/-! ## Closing marks -/

theorem throughClosing_closed {front others : List Text} {line : Text}
    (unclosed : ∀ line ∈ front, line.contains "*/" = false) (closed : line.contains "*/" = true) :
    throughClosing (front ++ line :: others) = front ++ [line] := by
  induction front with
  | nil => rw [List.nil_append, throughClosing, if_pos closed, List.nil_append]
  | cons first later ih =>
      rw [List.forall_mem_cons] at unclosed
      rw [List.cons_append, throughClosing, if_neg (by simp [unclosed.1]), ih unclosed.2,
        List.cons_append]

theorem throughClosing_unclosed (unclosed : ∀ line ∈ lines, line.contains "*/" = false) :
    throughClosing lines = lines := by
  induction lines with
  | nil => rfl
  | cons first later ih =>
      rw [List.forall_mem_cons] at unclosed
      rw [throughClosing, if_neg (by simp [unclosed.1]), ih unclosed.2]

theorem throughClosing_extract (inside : header ≤ lines.length) (ordered : first ≤ last)
    (above : last < header)
    (unclosed : ∀ line < last, first ≤ line → (lines.getD line []).contains "*/" = false)
    (closed : (lines.getD last []).contains "*/" = true) :
    throughClosing (lines.extract first header) = lines.extract first (last + 1) := by
  have here : last < lines.length := Nat.lt_of_lt_of_le above inside
  have split : lines.extract first header =
      lines.extract first last ++ lines.getD last [] :: lines.extract (last + 1) header := by
    rw [List.extract_eq_take_drop, List.extract_eq_take_drop, List.extract_eq_take_drop,
      List.getD_eq_getElem _ _ here, ← List.take_succ_cons, ← List.drop_eq_getElem_cons here,
      show header - first = (last - first) + (header - (last + 1) + 1) by omega, List.take_add,
      List.drop_drop, Nat.add_sub_cancel' ordered]
  rw [split, extract_succ ordered here]
  exact throughClosing_closed (forall_mem_extract (Nat.le_of_lt here) unclosed) closed

theorem contains_of_closesBlock {line : Text} (closes : closesBlock line = true) :
    line.contains "*/" = true := by
  unfold closesBlock at closes
  rw [Text.contains]
  cases cut : Text.cutAt? "*/" line with
  | none =>
      rw [cut] at closes
      exact absurd closes (by simp)
  | some parts => rfl

theorem text_of_block (inside : header ≤ lines.length)
    (block : IsBlock lines header first last) :
    (Text.joinLines (throughClosing (lines.extract first header))).trim =
      blockText lines first last := by
  rw [throughClosing_extract inside block.ordered block.above block.unclosed
    (contains_of_closesBlock block.closes), blockText]

/-- The first closing mark of a run of lines is that of the line that closes it, and trimming keeps
what stands behind it, apart from blanks. -/
theorem cutAt?_run (ordered : first ≤ last) (inside : last < lines.length)
    (unclosed : ∀ line < last, first ≤ line → (lines.getD line []).contains "*/" = false)
    {front rest : Text} (cut : Text.cutAt? "*/" (lines.getD last []) = some (front, rest)) :
    ∃ front', Text.cutAt? "*/" (blockText lines first last) = some (front', rest.trimEnd) := by
  have unmarked : ∀ line ∈ lines.extract first last, Text.cutAt? "*/" line = none :=
    forall_mem_extract (Nat.le_of_lt inside) fun line before behind =>
      Text.contains_eq_false_iff.1 (unclosed line before behind)
  rw [blockText, extract_succ ordered inside]
  exact ⟨_, Text.cutAt?_trim (by decide) (by decide)
    (Text.cutAt?_joinLines (by decide) (by decide) unmarked cut)⟩

/-- The text of a block ends with its first closing mark. -/
theorem cutAt?_blockText (inside : header ≤ lines.length)
    (block : IsBlock lines header first last) :
    ∃ front, Text.cutAt? "*/" (blockText lines first last) = some (front, []) := by
  have closes := block.closes
  unfold closesBlock at closes
  cases cut : Text.cutAt? "*/" (lines.getD last []) with
  | none =>
      rw [cut] at closes
      exact absurd closes (by simp)
  | some parts =>
      obtain ⟨front, rest⟩ := parts
      rw [cut, Option.any_some, List.all_eq_true] at closes
      obtain ⟨front', marked⟩ := cutAt?_run block.ordered
        (Nat.lt_of_lt_of_le block.above inside) block.unclosed cut
      rw [Text.trimEnd_eq_nil_iff.2 closes] at marked
      exact ⟨front', marked⟩

/-- Where the text that the search takes ends with its first closing mark, it is that of a block. -/
theorem isBlock_of_stopsAt (inside : header ≤ lines.length) (stops : StopsAt lines header first)
    {front : Text}
    (marked : Text.cutAt? "*/"
      (Text.joinLines (throughClosing (lines.extract first header))).trim = some (front, [])) :
    ∃ last, IsBlock lines header first last := by
  rcases Decidable.em (∃ last < header, first ≤ last ∧ (lines.getD last []).contains "*/") with
    closed | notClosed
  · obtain ⟨above, ordered, closing⟩ := Nat.find_spec closed
    have unclosed : ∀ line < Nat.find closed, first ≤ line →
        (lines.getD line []).contains "*/" = false := by
      intro line before behind
      have earlier := Nat.find_min closed before
      rw [Bool.eq_false_iff]
      intro marks
      exact earlier ⟨Nat.lt_trans before above, behind, marks⟩
    have here := Nat.lt_of_lt_of_le above inside
    obtain ⟨⟨front', rest⟩, cut⟩ := Option.isSome_iff_exists.1 closing
    obtain ⟨front'', run⟩ := cutAt?_run ordered here unclosed cut
    rw [throughClosing_extract inside ordered above unclosed closing, ← blockText, run,
      Option.some.injEq, Prod.mk.injEq, Text.trimEnd_eq_nil_iff] at marked
    refine ⟨_, ordered, above, stops.near, stops.opens, unclosed, ?_, fun line below behind => ?_⟩
    · rw [closesBlock, cut, Option.any_some, List.all_eq_true]
      exact marked.2
    · exact (stops.passed line below (Nat.lt_of_le_of_lt ordered behind)).2
  · have unclosed : ∀ line ∈ lines.extract first header, line.contains "*/" = false :=
      forall_mem_extract inside fun line below behind =>
        Bool.eq_false_iff.2 fun marks => notClosed ⟨line, below, behind, marks⟩
    have uncut : Text.cutAt? "*/" (Text.joinLines (lines.extract first header)) = none :=
      Text.cutAt?_joinLines_eq_none (by decide) (by decide) fun line member =>
        Text.contains_eq_false_iff.1 (unclosed line member)
    rw [throughClosing_unclosed unclosed,
      Text.cutAt?_eq_none_of_isInfix (Text.trim_isInfix _) uncut] at marked
    exact absurd marked (by simp)

/-! ## Documentation that is found -/

/-- What the search relies on: the comment at which it stops is closed above the declaration with
nothing behind, and the nearest documentation looks like comment lines throughout. -/
structure Searchable (lines : List Text) (header : Nat) : Prop where
  closed : ∀ first, StopsAt lines header first → ∃ last, IsBlock lines header first last
  inner : ∀ first last, IsNearest lines header first last →
    ∀ line, first < line → line ≤ last → mayStandBetween (lines.getD line [])

theorem exists_stop (above : first < header) (near : header ≤ first + lookback)
    (opens : opensBlock (lines.getD first []))
    (between : ∀ line < header, first < line → mayStandBetween (lines.getD line [])) :
    ∃ stop, first ≤ stop ∧ StopsAt lines header stop := by
  let opening (line : Nat) : Prop := line < header ∧ opensBlock (lines.getD line []) = true
  have lowest : first ≤ Nat.findGreatest opening header :=
    Nat.le_findGreatest (Nat.le_of_lt above) ⟨above, opens⟩
  obtain ⟨above', opens'⟩ : opening (Nat.findGreatest opening header) :=
    Nat.findGreatest_spec (Nat.le_of_lt above) ⟨above, opens⟩
  refine ⟨_, lowest, above', by omega, opens', fun line below behind => ⟨?_, ?_⟩⟩
  · rw [Bool.eq_false_iff]
    intro opens''
    exact Nat.findGreatest_is_greatest behind (Nat.le_of_lt below) ⟨below, opens''⟩
  · exact between line below (Nat.lt_of_le_of_lt lowest behind)

theorem StopsAt.isNearest (stops : StopsAt lines header first)
    (block : IsBlock lines header first last) : IsNearest lines header first last := by
  refine ⟨block, fun first' last' block' => ?_⟩
  rcases Nat.lt_or_ge first first' with nearer | further
  · have closed := (stops.passed first' (Nat.lt_of_le_of_lt block'.ordered block'.above) nearer).1
    rw [block'.opens] at closed
    exact absurd closed (by simp)
  · exact further

theorem Searchable.stopsAt (searchable : Searchable lines header)
    (nearest : IsNearest lines header first last) : StopsAt lines header first := by
  have above := Nat.lt_of_le_of_lt nearest.ordered nearest.above
  obtain ⟨stop, ordered, stops⟩ := exists_stop above nearest.near nearest.opens
    fun line below behind => by
      rcases Nat.lt_or_ge last line with outside | within
      · exact nearest.between line below outside
      · exact searchable.inner first last nearest line behind within
  obtain ⟨last', block⟩ := searchable.closed stop stops
  have same : stop = first := Nat.le_antisymm (nearest.nearest stop last' block) ordered
  rwa [same] at stops

/-- The search above a declaration always gives an answer, and this is the documentation exactly
when the search can be relied on. -/
theorem above_documents_iff {startLine : Nat} (inside : startLine ≤ lines.length) :
    ∃ found, above lines startLine = .ok found ∧
      (Documents lines (startLine - 1) found ↔ Searchable lines (startLine - 1)) := by
  obtain ⟨found, equal, taken⟩ := exists_above inside
  have within : startLine - 1 ≤ lines.length := Nat.le_trans (Nat.sub_le _ _) inside
  refine ⟨found, equal, fun documents => ?_, fun searchable => ⟨?_, ?_⟩⟩
  · have closed : ∀ first, StopsAt lines (startLine - 1) first →
        ∃ last, IsBlock lines (startLine - 1) first last := by
      intro first stops
      have here := (taken _).2 ⟨first, stops, rfl⟩
      rcases Classical.em (∃ first last, IsBlock lines (startLine - 1) first last) with
        ⟨first', last', block⟩ | noBlock
      · -- the text of the nearest block ends with its closing mark, so the same text here does
        obtain ⟨first', last', nearest⟩ := exists_nearest block
        obtain ⟨front, marked⟩ := cutAt?_blockText within nearest.toIsBlock
        rw [documents.eq_blockText first' last' nearest, Option.some.injEq] at here
        rw [here] at marked
        exact isBlock_of_stopsAt within stops marked
      · have nothing := documents.eq_none fun first last block => noBlock ⟨first, last, block⟩
        rw [nothing] at here
        exact absurd here (by simp)
    refine ⟨closed, fun first last nearest line behind before => ?_⟩
    obtain ⟨stop, stops, -⟩ := (taken _).1 (documents.eq_blockText first last nearest)
    obtain ⟨last', block⟩ := closed stop stops
    have further := (stops.isNearest block).nearest first last nearest.toIsBlock
    have nearer := nearest.nearest stop last' block
    exact (stops.passed line (Nat.lt_of_le_of_lt before nearest.above) (by omega)).2
  · intro first last nearest
    rw [taken, ← text_of_block within nearest.toIsBlock]
    exact ⟨first, searchable.stopsAt nearest, rfl⟩
  · intro noBlock
    cases found with
    | none => rfl
    | some text =>
        obtain ⟨first, stops, -⟩ := (taken text).1 rfl
        obtain ⟨last, block⟩ := searchable.closed first stops
        exact absurd block (noBlock first last)

/-- Of two comments above a class, with a line comment below them. -/
theorem above_documents_iff_twoBlocks :
    7 ≤ (["/** Far. */", "/**", " * Near.", " */ ", "", "// a note", "class A"].map
        String.toList).length ∧
      ∃ found, above (["/** Far. */", "/**", " * Near.", " */ ", "", "// a note", "class A"].map
          String.toList) 7 = .ok found ∧
        (Documents (["/** Far. */", "/**", " * Near.", " */ ", "", "// a note", "class A"].map
            String.toList) 6 found ↔
          Searchable (["/** Far. */", "/**", " * Near.", " */ ", "", "// a note", "class A"].map
            String.toList) 6) :=
  ⟨by decide, above_documents_iff (by decide)⟩

/-- A comment whose inner line has no star in front is not found. -/
theorem above_loses_unstarred_block :
    above (["/**", " Reads a file.", " */", "class Reader"].map String.toList) 4 = .ok none ∧
      ¬Documents (["/**", " Reads a file.", " */", "class Reader"].map String.toList) 3 none := by
  refine ⟨by decide, fun documents => ?_⟩
  have block : IsBlock (["/**", " Reads a file.", " */", "class Reader"].map String.toList) 3 0 2 :=
    by decide
  have only : ∀ first < 3, ∀ last < 3,
      IsBlock (["/**", " Reads a file.", " */", "class Reader"].map String.toList) 3 first last →
        first ≤ 0 := by
    decide
  have found := documents.eq_blockText 0 2 ⟨block, fun first last other =>
    only first (Nat.lt_of_le_of_lt other.ordered other.above) last other.above other⟩
  exact absurd found (by simp)

end Segmentation.DocComment
