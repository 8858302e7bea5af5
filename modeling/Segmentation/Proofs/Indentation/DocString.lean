import Mathlib.Data.List.GetD
import Segmentation.Proofs.Indentation.Nesting

/-!
# Documentation strings of their own

The documentation string of a declaration is found by its quotes, in the lines below the colon. That
search knows nothing of the block, which ends where the indentation says so. Both read the same
lines, so the string stands within the declaration exactly when its lines keep to the block: each of
them is blank, looks like a comment or is indented deeper than the declaration, and the closing
quote is not lost with the comment lines behind the block.
-/

namespace Segmentation.Indentation

variable {lines : List Text} {bodyStart first last count : Nat} {quote : String} {text head : Text}

/-! ## Where a string stands -/

/-- A documentation string of the body that starts on the line `bodyStart`: it opens on the line
`first`, and its closing quote is on the line `last`. -/
structure IsDocString (lines : List Text) (bodyStart first last : Nat) : Prop where
  behind : bodyStart ≤ first
  near : first < bodyStart + docStringLookahead
  skipped : ∀ line < first, bodyStart ≤ line → isSkippable (lines.getD line [])
  ordered : first ≤ last
  quoted : ∃ quote head, openingQuote? (lines.getD first []).trim = some (quote, head) ∧
    (head :: lines.drop (first + 1)).findIdx? (·.contains quote) = some (last - first)

/-! ## Closing quotes -/

theorem findIdx?_of_linesToQuote? {found : List Text}
    (closed : linesToQuote? quote lines = some found) :
    lines.findIdx? (·.contains quote) = some (found.length - 1) ∧ 0 < found.length := by
  induction lines generalizing found with
  | nil => exact absurd closed (by simp [linesToQuote?])
  | cons line others ih =>
      rw [linesToQuote?] at closed
      rw [List.findIdx?_cons, Text.contains]
      cases cut : Text.cutAt? quote line with
      | some parts =>
          simp only [cut, Option.some.injEq] at closed
          rw [← closed]
          exact ⟨rfl, Nat.one_pos⟩
      | none =>
          simp only [cut] at closed
          obtain ⟨later, further, rfl⟩ := Option.map_eq_some_iff.1 closed
          obtain ⟨place, filled⟩ := ih further
          rw [place]
          refine ⟨?_, Nat.succ_pos _⟩
          simp only [Option.isSome_none, Bool.false_eq_true, if_false, Option.map_some,
            List.length_cons, Option.some.injEq]
          omega

/-- A string that closes among the first lines is the same whatever comes after them, and no other
string closes there. -/
theorem linesToQuote?_take_eq_some_iff {found : List Text} :
    linesToQuote? quote (lines.take count) = some found ↔
      linesToQuote? quote lines = some found ∧ found.length ≤ count := by
  induction lines generalizing count found with
  | nil => simp [linesToQuote?]
  | cons line others ih =>
      cases count with
      | zero =>
          rw [List.take_zero, Nat.le_zero]
          refine ⟨fun closed => absurd closed (by simp [linesToQuote?]), fun ⟨closed, empty⟩ => ?_⟩
          have filled := (findIdx?_of_linesToQuote? closed).2
          omega
      | succ count =>
          rw [List.take_succ_cons, linesToQuote?, linesToQuote?]
          cases cut : Text.cutAt? quote line with
          | some parts =>
              simp only [Option.some.injEq]
              refine ⟨fun same => ⟨same, ?_⟩, fun ⟨same, _⟩ => same⟩
              rw [← same, List.length_singleton]
              omega
          | none =>
              simp only [Option.map_eq_some_iff, ih]
              constructor
              · rintro ⟨later, ⟨closed, fits⟩, rfl⟩
                exact ⟨⟨later, closed, rfl⟩, Nat.succ_le_succ fits⟩
              · rintro ⟨⟨later, closed, rfl⟩, fits⟩
                exact ⟨later, ⟨closed, Nat.le_of_succ_le_succ fits⟩, rfl⟩

/-! ## Opening quotes -/

theorem openingQuote?_of_isSkippable {line : Text} (skipped : isSkippable line = true) :
    openingQuote? line.trim = none := by
  unfold isSkippable at skipped
  cases trimmed : line.trim with
  | nil => rfl
  | cons character others =>
      rw [trimmed, List.isEmpty_cons, Bool.false_or] at skipped
      have comment : '#' = character := by
        simpa [Text.startsWith, List.isPrefixOf] using skipped
      subst comment
      rfl

theorem lt_length_of_opens
    (opens : openingQuote? (lines.getD first []).trim = some (quote, head)) :
    first < lines.length := by
  rcases Nat.lt_or_ge first lines.length with inside | outside
  · exact inside
  · have nothing : openingQuote? (Text.trim []) = none := rfl
    rw [List.getD_eq_default _ _ outside, nothing] at opens
    exact absurd opens (by simp)

theorem docStringWithin_cons (budget : Nat) (line : Text) (others : List Text) :
    docStringWithin (budget + 1) (line :: others) =
      match openingQuote? line.trim with
      | some (quote, head) =>
          (linesToQuote? quote (head :: others)).bind fun found => nonblank? (Text.joinLines found)
      | none => if isSkippable line then docStringWithin budget others else none := rfl

/-- Behind blank lines and comment lines, the string is read from its opening quote on. -/
theorem docStringWithin_drop {budget : Nat} (behind : bodyStart ≤ first)
    (near : first < bodyStart + budget)
    (skipped : ∀ line < first, bodyStart ≤ line → isSkippable (lines.getD line []))
    (opens : openingQuote? (lines.getD first []).trim = some (quote, head)) :
    docStringWithin budget (lines.drop bodyStart) =
      (linesToQuote? quote (head :: lines.drop (first + 1))).bind fun found =>
        nonblank? (Text.joinLines found) := by
  have inside := lt_length_of_opens opens
  induction budget generalizing bodyStart with
  | zero => omega
  | succ budget ih =>
      have here : bodyStart < lines.length := Nat.lt_of_le_of_lt behind inside
      rw [List.drop_eq_getElem_cons here, docStringWithin_cons, ← List.getD_eq_getElem _ [] here]
      rcases Nat.eq_or_lt_of_le behind with rfl | further
      · rw [opens]
      · have skip := skipped bodyStart further (Nat.le_refl _)
        rw [openingQuote?_of_isSkippable skip]
        simp only [skip, if_true]
        exact ih further (by omega) fun line before after => skipped line before (by omega)

theorem exists_opening {budget : Nat}
    (found : docStringWithin budget (lines.drop bodyStart) = some text) :
    ∃ first, bodyStart ≤ first ∧ first < bodyStart + budget ∧
      (∀ line < first, bodyStart ≤ line → isSkippable (lines.getD line [])) ∧
      ∃ quote head, openingQuote? (lines.getD first []).trim = some (quote, head) := by
  induction budget generalizing bodyStart with
  | zero =>
      unfold docStringWithin at found
      split at found <;> exact absurd found (by simp)
  | succ budget ih =>
      rcases Nat.lt_or_ge bodyStart lines.length with here | outside
      · rw [List.drop_eq_getElem_cons here, docStringWithin_cons,
          ← List.getD_eq_getElem _ [] here] at found
        cases opens : openingQuote? (lines.getD bodyStart []).trim with
        | some parts =>
            exact ⟨bodyStart, Nat.le_refl _, by omega, fun line before after => by omega,
              parts.1, parts.2, opens⟩
        | none =>
            simp only [opens] at found
            split at found
            · next skip =>
                obtain ⟨first, behind, near, skipped, opened⟩ := ih found
                refine ⟨first, by omega, by omega, fun line before after => ?_, opened⟩
                rcases Nat.eq_or_lt_of_le after with rfl | later
                · exact skip
                · exact skipped line before later
            · exact absurd found (by simp)
      · rw [List.drop_eq_nil_of_le outside, docStringWithin] at found
        exact absurd found (by simp)

/-! ## Strings among fewer lines -/

theorem getD_take {index : Nat} (within : index < count) :
    (lines.take count).getD index [] = lines.getD index [] := by
  rw [List.getD_eq_getElem?_getD, List.getElem?_take_of_lt within, ← List.getD_eq_getElem?_getD]

theorem docString?_take_of_opens (within : first < count) (behind : bodyStart ≤ first)
    (near : first < bodyStart + docStringLookahead)
    (skipped : ∀ line < first, bodyStart ≤ line → isSkippable (lines.getD line []))
    (opens : openingQuote? (lines.getD first []).trim = some (quote, head)) :
    docString? (lines.take count) bodyStart =
      (linesToQuote? quote ((head :: lines.drop (first + 1)).take (count - first))).bind
        fun found => nonblank? (Text.joinLines found) := by
  have rest : (head :: lines.drop (first + 1)).take (count - first) =
      head :: (lines.take count).drop (first + 1) := by
    rw [show count - first = count - (first + 1) + 1 by omega, List.take_succ_cons,
      List.drop_take]
  rw [rest, docString?]
  refine docStringWithin_drop behind near (fun line before after => ?_) ?_
  · rw [getD_take (Nat.lt_trans before within)]
    exact skipped line before after
  · rw [getD_take within]
    exact opens

/-- Among fewer lines the same documentation is found, provided its string closes there. -/
theorem docString?_take_eq_some_iff :
    docString? (lines.take count) bodyStart = some text ↔
      docString? lines bodyStart = some text ∧
        ∃ first last, IsDocString lines bodyStart first last ∧ last < count := by
  constructor
  · intro found
    obtain ⟨first, behind, near, skipped, quote, head, opens⟩ := exists_opening found
    have within : first < count := by
      have inside := lt_length_of_opens opens
      rw [List.length_take] at inside
      omega
    have skipped' : ∀ line < first, bodyStart ≤ line → isSkippable (lines.getD line []) := by
      intro line before after
      have skip := skipped line before after
      rwa [getD_take (Nat.lt_trans before within)] at skip
    rw [getD_take within] at opens
    rw [docString?_take_of_opens within behind near skipped' opens,
      Option.bind_eq_some_iff] at found
    obtain ⟨read, closed, filled⟩ := found
    obtain ⟨closed, fits⟩ := linesToQuote?_take_eq_some_iff.1 closed
    obtain ⟨place, -⟩ := findIdx?_of_linesToQuote? closed
    refine ⟨?_, first, first + (read.length - 1), ⟨behind, near, skipped', Nat.le_add_right _ _,
      quote, head, opens, ?_⟩, by omega⟩
    · rw [docString?, docStringWithin_drop behind near skipped' opens, closed]
      exact filled
    · rw [place, Nat.add_sub_cancel_left]
  · rintro ⟨found, first, last, ⟨behind, near, skipped, ordered, quote, head, opens, place⟩, within⟩
    rw [docString?, docStringWithin_drop behind near skipped opens,
      Option.bind_eq_some_iff] at found
    obtain ⟨read, closed, filled⟩ := found
    obtain ⟨place', -⟩ := findIdx?_of_linesToQuote? closed
    rw [place, Option.some.injEq] at place'
    rw [docString?_take_of_opens (Nat.lt_of_le_of_lt ordered within) behind near skipped opens,
      linesToQuote?_take_eq_some_iff.2 ⟨closed, by omega⟩]
    exact filled

/-! ## Strings of declarations -/

namespace LocatedHeader

variable {source : Text} {located : LocatedHeader}

/-- Whether the documentation of a declaration is its own: the lines behind its chunk have no part
in it. -/
def OwnsDocString (located : LocatedHeader) (source : Text) : Prop :=
  (chunkOf source (LineTable.ofText source) located).docComment =
    docString?
      (source.lines.take (chunkOf source (LineTable.ofText source) located).endLine.toNat)
      (located.colonLine source + 1)

instance (located : LocatedHeader) (source : Text) : Decidable (located.OwnsDocString source) :=
  inferInstanceAs (Decidable (_ = _))

/-- The lines of a string that count as lines of the declaration's block. -/
structure HoldsString (located : LocatedHeader) (source : Text) (first last : Nat) : Prop where
  indented : ∀ line ≤ last, first ≤ line →
    staysInside (located.indent source) (source.lines.getD line []) = true
  /-- A closing quote in what looks like a comment is not left behind at the end of the block. -/
  closing : ¬IsCode (source.lines.getD last []) → last ≤ located.lastLine source

/-- A documentation string closes within a declaration exactly when its lines keep to the block. -/
theorem closes_within_iff
    (isDocString : IsDocString source.lines (located.colonLine source + 1) first last) :
    last ≤ located.lastLine source ↔ located.HoldsString source first last := by
  constructor
  · intro within
    refine ⟨fun line before after => ?_, fun _ => within⟩
    exact In.staysInside_of_le_lastLine (Nat.lt_of_lt_of_le isDocString.behind after)
      (Nat.le_trans before within)
  · intro holds
    rcases Decidable.em (IsCode (source.lines.getD last [])) with code | notCode
    · refine In.le_lastLine code fun line below within => ?_
      rcases Nat.lt_or_ge line first with above | inString
      · refine staysInside_of_not_isCode ?_ _
        rw [IsCode, isDocString.skipped line above below]
        exact Bool.noConfusion
      · exact holds.indented line within inString
    · exact holds.closing notCode

end LocatedHeader

/-- The documentation of a declaration is its own exactly when there is none, or when the string
that holds it keeps to the block. -/
theorem ownsDocString_iff {source : Text} {located : LocatedHeader}
    (member : located ∈ allHeaders source) :
    located.OwnsDocString source ↔
      (chunkOf source (LineTable.ofText source) located).docComment = none ∨
        ∃ first last, IsDocString source.lines (located.colonLine source + 1) first last ∧
          located.HoldsString source first last := by
  have header := in_of_mem_allHeaders member
  have lineCount : (chunkOf source (LineTable.ofText source) located).endLine.toNat =
      located.lastLine source + 1 := by
    rw [header.endLine_chunkOf]
    rfl
  rw [LocatedHeader.OwnsDocString, lineCount, header.docComment_chunkOf]
  cases found : docString? source.lines (located.colonLine source + 1) with
  | none =>
      refine iff_of_true ?_ (.inl rfl)
      cases cut : docString? (source.lines.take (located.lastLine source + 1))
        (located.colonLine source + 1) with
      | none => rfl
      | some text =>
          have whole := (docString?_take_eq_some_iff.1 cut).1
          rw [found] at whole
          exact whole
  | some text =>
      rw [eq_comm, docString?_take_eq_some_iff, found]
      simp only [true_and, reduceCtorEq, false_or, Nat.lt_succ_iff]
      refine exists_congr fun first => exists_congr fun last =>
        and_congr_right fun isDocString => ?_
      exact LocatedHeader.closes_within_iff isDocString

/-- A function with a note and a documentation string in two lines. -/
def notedFunction : Text :=
  "def f():\n  # A note.\n  r'''Of f,\n  in two lines.'''\n  x = 1".toList

def notedHeader : LocatedHeader where
  offset := 0
  header :=
    { kind := .functionHeader, lead := [], decorators := [], opening := "def ".toList
      name := "f".toList, tail := "():".toList, isAsync := false, parameters := some [] }

theorem ownsDocString_iff_notedFunction :
    notedHeader ∈ allHeaders notedFunction ∧
      (notedHeader.OwnsDocString notedFunction ↔
        (chunkOf notedFunction (LineTable.ofText notedFunction) notedHeader).docComment = none ∨
          ∃ first last,
            IsDocString notedFunction.lines (notedHeader.colonLine notedFunction + 1) first last ∧
              notedHeader.HoldsString notedFunction first last) :=
  ⟨by decide +kernel, ownsDocString_iff (by decide +kernel)⟩

/-- A function on one line is documented by a string that stands behind it. -/
theorem oneLiner_takes_foreign_string :
    (chunks "def f(): ...\n'''Says nothing of f.'''".toList).map
        (fun chunk => (chunk.range, chunk.docComment)) =
      [((0, 12), some "Says nothing of f.".toList)] ∧
    ¬∀ located ∈ allHeaders "def f(): ...\n'''Says nothing of f.'''".toList,
      located.OwnsDocString "def f(): ...\n'''Says nothing of f.'''".toList := by
  have found := chunks_eq (List.Perm.refl ((allHeaders
      "def f(): ...\n'''Says nothing of f.'''".toList).map (chunkOf _ _)))
    (by decide +kernel) (by decide +kernel)
  rw [found]
  decide +kernel

end Segmentation.Indentation
