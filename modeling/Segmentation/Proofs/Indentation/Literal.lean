import Segmentation.Indentation.FromEnd
import Segmentation.Proofs.Indentation.DocString
import Segmentation.Proofs.Text.Marks
import Segmentation.Proofs.Text.Pieces
import Segmentation.Proofs.Text.Runs

/-!
# String literals that are read back

A documentation string is written as a literal in triple quotes, on one line or on several, with at
most two letters in front of the quotes. The line that opens it is trimmed before it is read, the
lines behind it are not. What is read is the text of the literal, but for the blanks that trimming
takes.
-/

namespace Segmentation.Indentation

variable {budget : Nat} {quote : String} {front line rest text : Text}
  {before skips post : List Text}

/-! ## Written literals -/

/-- What opens a string on its line: blanks, at most two string letters and a triple quote. -/
structure Opening where
  gap : Text
  letters : Text
  quote : String
  blank : ∀ character ∈ gap, isBlank character
  few : letters.length ≤ 2
  lettered : ∀ character ∈ letters, isStringLetter character
  triple : quote = "\"\"\"" ∨ quote = "'''"

/-- An opening as it is written. -/
def Opening.written (opening : Opening) : Text :=
  opening.gap ++ (opening.letters ++ opening.quote.toList)

/-- Whether a line opens a string. -/
def Opens (line : Text) : Prop :=
  ∃ (opening : Opening) (rest : Text), line = opening.written ++ rest

/-- A string literal, and what stands behind it on its last line. The closing quote is the first one
behind the opening. -/
structure StringLiteral extends Opening where
  text : Text
  tail : Text
  unquoted : ¬quote.toList <:+: text
  ending : ∀ character ∈ text.getLast?, character ∉ quote.toList
  inLine : '\n' ∉ gap ++ tail

/-- The text of a string without the blanks at the end of its first line, when there are others. -/
def trimFirstLine (text : Text) : Text :=
  match text.lines with
  | first :: second :: others => Text.joinLines (first.trimEnd :: second :: others)
  | _ => text

namespace StringLiteral

/-- The lines of a source on which a literal stands. -/
def lines (literal : StringLiteral) : List Text :=
  Text.lines (literal.written ++ (literal.text ++ (literal.quote.toList ++ literal.tail)))

/-- What a literal says: its text with trimmed ends, or nothing when only blanks are left. -/
def documentation (literal : StringLiteral) : Option Text :=
  nonblank? (trimFirstLine literal.text)

end StringLiteral

/-! ## Openings -/

theorem isBlank_eq_false_of_isStringLetter {character : Char}
    (letter : isStringLetter character = true) : isBlank character = false := by
  rw [isStringLetter, List.contains_iff_mem] at letter
  have solid : "rRuUbBfF".toList.all (isBlank · == false) = true := by decide
  exact beq_iff_eq.1 (List.all_eq_true.1 solid character letter)

namespace Opening

variable (opening : Opening)

/-- A triple quote is three times a character that neither is blank nor may stand before it. -/
theorem exists_quote_eq : ∃ character, opening.quote.toList = [character, character, character] ∧
    isBlank character = false ∧ isStringLetter character = false := by
  rcases opening.triple with double | single
  · exact ⟨'"', by rw [double]; rfl, by decide, by decide⟩
  · exact ⟨'\'', by rw [single]; rfl, by decide, by decide⟩

theorem newline_not_mem_quote : '\n' ∉ opening.quote.toList := by
  rcases opening.triple with double | single
  · rw [double]
    decide
  · rw [single]
    decide

theorem newline_not_mem_written (inLine : '\n' ∉ opening.gap) : '\n' ∉ opening.written := by
  rw [written, List.mem_append, List.mem_append, not_or, not_or]
  refine ⟨inLine, fun letter => ?_, opening.newline_not_mem_quote⟩
  exact absurd (opening.lettered _ letter) (by decide)

/-- A triple quote ends what is trimmed in front of the blanks behind it. -/
theorem trimEnd_quote_append (front rest : Text) :
    Text.trimEnd (front ++ (opening.quote.toList ++ rest)) =
      front ++ (opening.quote.toList ++ rest.trimEnd) := by
  obtain ⟨character, quoted, solid, -⟩ := opening.exists_quote_eq
  have ends := Text.trimEnd_append solid (front ++ [character, character]) rest
  simpa only [quoted, List.append_assoc, List.cons_append, List.nil_append] using ends

/-- Trimming an opened line leaves the opening without its blanks. -/
theorem trim_written_append (rest : Text) : Text.trim (opening.written ++ rest) =
    opening.letters ++ (opening.quote.toList ++ rest.trimEnd) := by
  obtain ⟨character, quoted, solid, -⟩ := opening.exists_quote_eq
  have letters : Text.trimStart opening.letters = opening.letters := by
    rw [Text.trimStart, List.dropWhile_eq_self_iff]
    intro filled
    rw [isBlank_eq_false_of_isStringLetter (opening.lettered _ (List.getElem_mem filled))]
    exact Bool.false_ne_true
  have start : Text.trimStart (opening.letters ++ (opening.quote.toList ++ rest)) =
      opening.letters ++ (opening.quote.toList ++ rest) := by
    rw [quoted, List.cons_append, Text.trimStart_append solid, letters]
  rw [written, List.append_assoc, List.append_assoc, Text.trim_append_left opening.blank, Text.trim,
    start, trimEnd_quote_append]

theorem openingQuote?_trim (rest : Text) :
    openingQuote? (Text.trim (opening.written ++ rest)) = some (opening.quote, rest.trimEnd) := by
  obtain ⟨character, quoted, -, other⟩ := opening.exists_quote_eq
  have stops : isStringLetter character ≠ true := by simp [other]
  have taken : (opening.letters ++ (opening.quote.toList ++ rest.trimEnd)).takeWhile
      isStringLetter = opening.letters := by
    rw [List.takeWhile_append_of_pos opening.lettered, quoted, List.cons_append,
      List.takeWhile_cons_of_neg stops, List.append_nil]
  have left : (opening.letters ++ (opening.quote.toList ++ rest.trimEnd)).dropWhile
      isStringLetter = opening.quote.toList ++ rest.trimEnd := by
    rw [List.dropWhile_append_of_pos opening.lettered, quoted, List.cons_append,
      List.dropWhile_cons_of_neg stops]
  rw [trim_written_append, openingQuote?, taken, left, if_neg (Nat.not_lt.2 opening.few)]
  rcases opening.triple with double | single
  · rw [double]
    rfl
  · rw [single]
    rfl

end Opening

/-- The lines that open a string are those whose quote is found. -/
theorem opens_iff : Opens line ↔ (openingQuote? line.trim).isSome = true := by
  constructor
  · rintro ⟨opening, rest, rfl⟩
    rw [opening.openingQuote?_trim]
    rfl
  · intro found
    obtain ⟨gap, after, whole, blank, -⟩ := Text.exists_trim line
    have split : line.trim.takeWhile isStringLetter ++ line.trim.dropWhile isStringLetter =
      line.trim := List.takeWhile_append_dropWhile
    have opened {quote : String} (few : ¬2 < (line.trim.takeWhile isStringLetter).length)
        (triple : quote = "\"\"\"" ∨ quote = "'''")
        (starts : Text.startsWith (line.trim.dropWhile isStringLetter) quote = true) :
        Opens line := by
      obtain ⟨rest, quoted⟩ := Text.startsWith_iff.1 starts
      refine ⟨⟨gap, _, quote, blank, Nat.not_lt.1 few, fun _ member =>
        List.mem_takeWhile_imp member, triple⟩, rest ++ after, ?_⟩
      calc line = gap ++ (line.trim ++ after) := whole
        _ = gap ++ (line.trim.takeWhile isStringLetter ++ (quote.toList ++ rest) ++ after) := by
          rw [quoted, split]
        _ = _ := by simp only [Opening.written, List.append_assoc]
    simp only [openingQuote?] at found
    split at found
    · exact absurd found (by simp)
    · next few =>
        split at found
        · next double => exact opened few (.inl rfl) double
        · split at found
          · next single => exact opened few (.inr rfl) single
          · exact absurd found (by simp)

instance (line : Text) : Decidable (Opens line) :=
  decidable_of_iff _ opens_iff.symm

/-! ## Closing quotes -/

theorem linesToQuote?_append (unmarked : ∀ line ∈ before, Text.cutAt? quote line = none)
    (cut : Text.cutAt? quote line = some (front, rest)) (after : List Text) :
    linesToQuote? quote (before ++ line :: after) = some (before ++ [front]) := by
  induction before with
  | nil => rw [List.nil_append, linesToQuote?, cut, List.nil_append]
  | cons first others ih =>
      rw [List.forall_mem_cons] at unmarked
      rw [List.cons_append, linesToQuote?, unmarked.1]
      simp only [ih unmarked.2, Option.map_some, List.cons_append]

theorem linesToQuote?_eq_none {lines : List Text}
    (unmarked : ∀ line ∈ lines, Text.cutAt? quote line = none) :
    linesToQuote? quote lines = none := by
  induction lines with
  | nil => rfl
  | cons first others ih =>
      rw [List.forall_mem_cons] at unmarked
      rw [linesToQuote?, unmarked.1]
      simp only [ih unmarked.2, Option.map_none]

/-! ## Lines in front of a string -/

/-- Blank lines and comment lines only use up the lines that are looked at. -/
theorem docStringWithin_skips (skipped : ∀ line ∈ skips, isSkippable line = true)
    (lines : List Text) :
    docStringWithin budget (skips ++ lines) = docStringWithin (budget - skips.length) lines := by
  induction skips generalizing budget with
  | nil => rfl
  | cons line others ih =>
      rw [List.forall_mem_cons] at skipped
      cases budget with
      | zero => rw [Nat.zero_sub]; cases lines <;> rfl
      | succ budget =>
          rw [List.cons_append, docStringWithin_cons, openingQuote?_of_isSkippable skipped.1]
          simp only [skipped.1, if_true, List.length_cons, Nat.add_sub_add_right]
          exact ih skipped.2

theorem docStringWithin_code (closed : ∀ line ∈ before, ¬Opens line)
    (code : ∃ line ∈ before, IsCode line) (lines : List Text) :
    docStringWithin budget (before ++ lines) = none := by
  induction before generalizing budget with
  | nil => exact absurd code (by simp)
  | cons line others ih =>
      rw [List.forall_mem_cons, opens_iff, Bool.not_eq_true, Option.isSome_eq_false_iff,
        Option.isNone_iff_eq_none] at closed
      cases budget with
      | zero => rfl
      | succ budget =>
          rw [List.cons_append, docStringWithin_cons, closed.1]
          by_cases skip : isSkippable line = true
          · simp only [skip, if_true]
            refine ih closed.2 ?_
            obtain ⟨other, member, code⟩ := code
            rcases List.mem_cons.1 member with rfl | later
            · exact absurd (code.symm.trans skip) Bool.noConfusion
            · exact ⟨other, later, code⟩
          · simp only [skip, if_false, Bool.false_eq_true]

theorem docStringWithin_opening (skipped : ∀ line ∈ skips, isSkippable line = true)
    (near : skips.length < budget) (opening : Opening) (rest : Text) (post : List Text) :
    docStringWithin budget (skips ++ (opening.written ++ rest) :: post) =
      (linesToQuote? opening.quote (rest.trimEnd :: post)).bind fun found =>
        nonblank? (Text.joinLines found) := by
  rw [docStringWithin_skips skipped, show budget - skips.length = budget - skips.length - 1 + 1 by
    omega, docStringWithin_cons, opening.openingQuote?_trim]

/-- A string whose quote does not return is none. -/
theorem Opening.docStringWithin_unclosed (opening : Opening)
    (skipped : ∀ line ∈ skips, isSkippable line = true) (unclosed : ¬opening.quote.toList <:+: rest)
    (openLines : ∀ line ∈ post, ¬opening.quote.toList <:+: line) :
    docStringWithin budget (skips ++ (opening.written ++ rest) :: post) = none := by
  rcases Nat.lt_or_ge skips.length budget with near | far
  · obtain ⟨gap, ends⟩ := Text.exists_trimEnd rest
    have unmarked : ∀ line ∈ rest.trimEnd :: post, Text.cutAt? opening.quote line = none := by
      simp only [Text.cutAt?_eq_none_iff]
      refine List.forall_mem_cons.2 ⟨fun quoted => unclosed ?_, openLines⟩
      exact quoted.trans ⟨[], gap, by rw [List.nil_append, ← ends]⟩
    rw [docStringWithin_opening skipped near, linesToQuote?_eq_none unmarked, Option.bind_none]
  · rw [docStringWithin_skips skipped, Nat.sub_eq_zero_of_le far]
    rfl

/-! ## Lines of a literal -/

theorem trimFirstLine_eq_self (inLine : '\n' ∉ text) : trimFirstLine text = text := by
  rw [trimFirstLine, Text.lines_of_not_mem inLine]

theorem trimFirstLine_eq {first last : Text} {others : List Text}
    (several : text.lines = first :: (others ++ [last])) :
    trimFirstLine text = Text.joinLines (first.trimEnd :: (others ++ [last])) := by
  rw [trimFirstLine, several]
  cases others <;> rfl

theorem isInfix_of_mem {line : Text} (member : line ∈ before) (last : Text) :
    line <:+: Text.unlines before ++ last := by
  obtain ⟨left, right, rfl⟩ := List.append_of_mem member
  refine ⟨Text.unlines left, '\n' :: (Text.unlines right ++ last), ?_⟩
  rw [Text.unlines_append, Text.unlines_cons]
  simp only [List.append_assoc, List.cons_append]

namespace StringLiteral

variable (literal : StringLiteral)

/-- The closing quote of a literal is found behind every end of its text. -/
theorem cutAt?_append {front last : Text} (split : literal.text = front ++ last) (rest : Text) :
    Text.cutAt? literal.quote (last ++ (literal.quote.toList ++ rest)) = some (last, rest) := by
  refine Text.cutAt?_append (fun inside => literal.unquoted ?_) (fun character ends => ?_) rest
  · exact inside.trans ⟨front, [], by rw [split, List.append_nil]⟩
  · refine literal.ending character ?_
    rw [Option.mem_def] at ends ⊢
    rw [split, List.getLast?_append, ends, Option.some_or]

theorem cutAt?_eq_none {part : Text} (inside : part <:+: literal.text) :
    Text.cutAt? literal.quote part = none :=
  Text.cutAt?_eq_none_iff.2 fun quoted => literal.unquoted (quoted.trans inside)

theorem newline_not_mem_front (inLine : '\n' ∉ line) : '\n' ∉ literal.written ++ line := by
  have inGap := (not_or.1 (List.mem_append.not.1 literal.inLine)).1
  exact List.mem_append.not.2 (not_or.2 ⟨literal.newline_not_mem_written inGap, inLine⟩)

theorem newline_not_mem_back (inLine : '\n' ∉ line) :
    '\n' ∉ line ++ (literal.quote.toList ++ literal.tail) := by
  have inTail := (not_or.1 (List.mem_append.not.1 literal.inLine)).2
  rw [List.mem_append, List.mem_append, not_or, not_or]
  exact ⟨inLine, literal.newline_not_mem_quote, inTail⟩

theorem lines_eq_singleton (inLine : '\n' ∉ literal.text) : literal.lines =
    [literal.written ++ (literal.text ++ (literal.quote.toList ++ literal.tail))] :=
  Text.lines_of_not_mem (literal.newline_not_mem_front (literal.newline_not_mem_back inLine))

/-- The first and the last line of the text of a literal share theirs with the quotes. -/
theorem lines_eq_cons {first last : Text} {others : List Text}
    (whole : literal.text = Text.unlines (first :: others) ++ last)
    (inLines : ∀ line ∈ first :: others, '\n' ∉ line) (inLast : '\n' ∉ last) :
    literal.lines = (literal.written ++ first) ::
      (others ++ [last ++ (literal.quote.toList ++ literal.tail)]) := by
  rw [List.forall_mem_cons] at inLines
  have inFront : ∀ line ∈ (literal.written ++ first) :: others, '\n' ∉ line :=
    List.forall_mem_cons.2 ⟨literal.newline_not_mem_front inLines.1, inLines.2⟩
  have split := Text.lines_unlines_append inFront (last ++ (literal.quote.toList ++ literal.tail))
  rw [Text.lines_of_not_mem (literal.newline_not_mem_back inLast), Text.unlines_cons] at split
  rw [lines, whole, Text.unlines_cons]
  simpa only [List.append_assoc, List.cons_append] using split

theorem docStringWithin_lines (skipped : ∀ line ∈ skips, isSkippable line = true)
    (near : skips.length < budget) (post : List Text) :
    docStringWithin budget (skips ++ (literal.lines ++ post)) = literal.documentation := by
  obtain ⟨before, last, whole, textLines, inLines, inLast⟩ :=
    Text.exists_unlines_append literal.text
  rw [documentation]
  cases before with
  | nil =>
      have inLine : '\n' ∉ literal.text := by
        rw [whole]
        exact inLast
      have cut := literal.cutAt?_append (List.nil_append _).symm literal.tail.trimEnd
      rw [literal.lines_eq_singleton inLine, List.singleton_append,
        docStringWithin_opening skipped near, literal.trimEnd_quote_append,
        ← List.nil_append (_ :: post), linesToQuote?_append (List.forall_mem_nil _) cut,
        trimFirstLine_eq_self inLine]
      rfl
  | cons first others =>
      have unmarked : ∀ line ∈ first.trimEnd :: others,
          Text.cutAt? literal.quote line = none := by
        refine List.forall_mem_cons.2 ⟨literal.cutAt?_eq_none ?_, fun line member => ?_⟩
        · obtain ⟨gap, ends⟩ := Text.exists_trimEnd first
          rw [whole]
          refine List.IsInfix.trans ⟨[], gap, ?_⟩ (isInfix_of_mem List.mem_cons_self last)
          rw [List.nil_append, ← ends]
        · exact literal.cutAt?_eq_none
            (whole ▸ isInfix_of_mem (List.mem_cons_of_mem first member) last)
      have cut := literal.cutAt?_append whole literal.tail
      rw [literal.lines_eq_cons whole inLines inLast, List.cons_append,
        docStringWithin_opening skipped near, List.append_assoc, List.singleton_append,
        ← List.cons_append, linesToQuote?_append unmarked cut, trimFirstLine_eq textLines]
      rfl

end StringLiteral

/-! ## Positions among all lines -/

/-- A position that does not count from the end means the lines from there on. -/
theorem docStringFrom_natCast (lines : List Text) (bodyStart : Nat) :
    docStringFrom lines bodyStart = .ok (docString? lines bodyStart) := by
  have reads (budget : Nat) : docStringAt lines bodyStart (min budget (lines.length - bodyStart)) =
      .ok (docStringWithin budget (lines.drop bodyStart)) := by
    induction budget generalizing bodyStart with
    | zero =>
        rw [Nat.zero_min, docStringAt]
        cases lines.drop bodyStart <;> rfl
    | succ budget ih =>
        rcases Nat.lt_or_ge bodyStart lines.length with inside | outside
        · have nonneg : ¬(bodyStart : Int) < 0 := by omega
          have place : positionOf lines bodyStart = .ok bodyStart := by simp [positionOf, nonneg]
          have after : linesAfter lines bodyStart = lines.drop (bodyStart + 1) := by
            rw [linesAfter, if_neg (by omega)]
            rfl
          have later := ih (bodyStart + 1)
          rw [Int.natCast_add, Int.natCast_one] at later
          rw [show min (budget + 1) (lines.length - bodyStart) =
              min budget (lines.length - (bodyStart + 1)) + 1 by omega,
            List.drop_eq_getElem_cons inside, docStringWithin_cons,
            ← List.getD_eq_getElem _ [] inside, docStringAt, place, after, later]
          simp only [bind, Except.bind, pure, Except.pure]
          cases openingQuote? (Text.trim (lines.getD bodyStart [])) with
          | some opened => rfl
          | none => exact (apply_ite Except.ok _ _ _).symm
        · rw [Nat.sub_eq_zero_of_le outside, Nat.min_zero, List.drop_eq_nil_of_le outside]
          rfl
  rw [docStringFrom, docString?, ← reads]
  congr 1
  omega

theorem docStringFrom_append (pre lines : List Text) :
    docStringFrom (pre ++ lines) pre.length = .ok (docStringWithin docStringLookahead lines) := by
  rw [docStringFrom_natCast, docString?, List.drop_left]

/-- What is read behind `pre` when `skips` come first there. A literal behind at most four such
lines is read back. Nothing is found when its quote does not return, behind a line of code that
opens no string, and behind five lines or more. -/
structure ReadsBehind (pre skips post : List Text) : Prop where
  literal : ∀ literal : StringLiteral, skips.length ≤ 4 →
    docStringFrom (pre ++ (skips ++ (literal.lines ++ post))) pre.length =
      .ok literal.documentation
  unclosed : ∀ (opening : Opening) (rest : Text), ¬opening.quote.toList <:+: rest →
    (∀ line ∈ post, ¬opening.quote.toList <:+: line) →
    docStringFrom (pre ++ (skips ++ (opening.written ++ rest) :: post)) pre.length = .ok none
  code : ∀ before : List Text, (∀ line ∈ before, ¬Opens line) → (∃ line ∈ before, IsCode line) →
    docStringFrom (pre ++ (before ++ post)) pre.length = .ok none
  far : 5 ≤ skips.length → docStringFrom (pre ++ (skips ++ post)) pre.length = .ok none

/-- Blank lines and comment lines are passed over, up to a limit. -/
theorem docStringFrom_written (pre skips post : List Text)
    (skipped : ∀ line ∈ skips, isSkippable line = true) : ReadsBehind pre skips post where
  literal literal near := by
    rw [docStringFrom_append, docStringLookahead,
      literal.docStringWithin_lines skipped (Nat.lt_succ_of_le near)]
  unclosed opening rest restOpen postOpen := by
    rw [docStringFrom_append, opening.docStringWithin_unclosed skipped restOpen postOpen]
  code before closed code := by
    rw [docStringFrom_append, docStringWithin_code closed code]
  far far := by
    rw [docStringFrom_append, docStringWithin_skips skipped, docStringLookahead,
      Nat.sub_eq_zero_of_le far]
    cases post <;> rfl

/-- A raw string in two lines, the first of which ends with blanks. -/
def rawLiteral : StringLiteral where
  gap := "  ".toList
  letters := "r".toList
  quote := "'''"
  blank := List.all_eq_true.1 (by decide)
  few := by decide
  lettered := List.all_eq_true.1 (by decide)
  triple := .inr rfl
  text := "Of \"f\":  \n    a note. ".toList
  tail := "  # closed".toList
  unquoted := by rw [← Text.contains_iff_isInfix]; decide +kernel
  ending := fun character last => by
    obtain rfl : ' ' = character := Option.some.inj last
    decide
  inLine := by decide

theorem docStringFrom_written_rawLiteral :
    docStringFrom ("def f():".toList :: "  # On f.".toList ::
        (rawLiteral.lines ++ ["  x = 1".toList])) 1 = .ok (some "Of \"f\":\n    a note.".toList) ∧
      docStringFrom ["def f():".toList, [], "  r'''Of f.''".toList, "  x = 1".toList] 1 =
        .ok none ∧
      docStringFrom ("def f():".toList :: "  x = 1".toList :: rawLiteral.lines) 1 = .ok none ∧
      docStringFrom ("def f():".toList :: (List.replicate 5 [] ++ rawLiteral.lines)) 1 =
        .ok none := by
  have behindComment := docStringFrom_written ["def f():".toList] ["  # On f.".toList]
    ["  x = 1".toList] (by decide)
  have behindBlank := docStringFrom_written ["def f():".toList] [[]] ["  x = 1".toList] (by decide)
  have behindHeader := docStringFrom_written ["def f():".toList] [] rawLiteral.lines (by decide)
  have behindMany := docStringFrom_written ["def f():".toList] (List.replicate 5 [])
    rawLiteral.lines (by decide)
  refine ⟨?_, ?_, ?_, ?_⟩
  · refine (behindComment.literal rawLiteral (by decide)).trans (congrArg Except.ok ?_)
    decide +kernel
  · refine behindBlank.unclosed rawLiteral.toOpening "Of f.''".toList ?_ ?_
    · rw [← Text.contains_iff_isInfix]
      decide +kernel
    · simp only [← Text.contains_iff_isInfix]
      decide +kernel
  · exact behindHeader.code ["  x = 1".toList] (by decide +kernel) (by decide +kernel)
  · exact behindMany.far (by decide)

end Segmentation.Indentation
