import Mathlib.Data.List.TakeWhile
import Segmentation.Indentation.Header
import Segmentation.Proofs.Text.WholeLines

/-!
# Headers as they stand in a text

Every reader takes a piece off the front of a text: what it read and what it left make the text
again. So a header is a piece of its source, and it stands where it was looked for. Of its parts,
the decorators are whole lines, each with the indentation after it, and the last one ends with the
colon.
-/

namespace Segmentation.Indentation

variable {text read rest : Text}

/-! ## Parts of a header -/

theorem takeRun_append (accepts : Char → Bool) (text : Text) :
    (takeRun accepts text).1 ++ (takeRun accepts text).2 = text :=
  List.takeWhile_append_dropWhile

theorem forall_mem_takeRun (accepts : Char → Bool) (text : Text) :
    ∀ character ∈ (takeRun accepts text).1, accepts character := by
  intro character member
  exact List.mem_takeWhile_imp member

theorem takeRun1?_append {accepts : Char → Bool}
    (found : takeRun1? accepts text = some (read, rest)) : read ++ rest = text := by
  have whole := takeRun_append accepts text
  unfold takeRun1? at found
  split at found
  · exact absurd found (by simp)
  · rw [Option.some.injEq] at found
    rwa [found] at whole

theorem takeRun1?_forall_mem {accepts : Char → Bool}
    (found : takeRun1? accepts text = some (read, rest)) :
    read ≠ [] ∧ ∀ character ∈ read, accepts character := by
  have accepted := forall_mem_takeRun accepts text
  unfold takeRun1? at found
  split at found
  · exact absurd found (by simp)
  · next notEmpty =>
      rw [Option.some.injEq] at found
      rw [found] at accepted notEmpty
      exact ⟨fun empty => notEmpty rest (by rw [empty]), accepted⟩

theorem takeWord?_append {word : String} (found : takeWord? word text = some (read, rest)) :
    read = word.toList ∧ read ++ rest = text := by
  unfold takeWord? at found
  split at found
  · next starts =>
      rw [Option.some.injEq, Prod.mk.injEq] at found
      obtain ⟨rfl, rfl⟩ := found
      obtain ⟨tail, whole⟩ := List.isPrefixOf_iff_prefix.1 starts
      refine ⟨rfl, ?_⟩
      rw [← whole, ← String.length_toList, List.drop_left]
  · exact absurd found (by simp)

theorem takeLineRemainder?_append (found : takeLineRemainder? text = some (read, rest)) :
    read ++ rest = text := by
  have whole := takeRun_append isIndent text
  unfold takeLineRemainder? at found
  generalize takeRun isIndent text = run at whole found
  obtain ⟨gap, after⟩ := run
  simp only at whole found
  split at found
  · rw [Option.some.injEq, Prod.mk.injEq] at found
    obtain ⟨rfl, rfl⟩ := found
    simpa using whole
  · rw [Option.some.injEq, Prod.mk.injEq] at found
    obtain ⟨rfl, rfl⟩ := found
    simpa using whole
  · next others =>
      have comment := takeRun_append (· != '\n') ('#' :: others)
      split at found
      · next newline =>
          rw [Option.some.injEq, Prod.mk.injEq] at found
          obtain ⟨rfl, rfl⟩ := found
          rw [newline] at comment
          rw [← whole, ← comment]
          simp [comment]
      · exact absurd found (by simp)
  · exact absurd found (by simp)

theorem takeArguments?_append (found : takeArguments? text = some (read, rest)) :
    read ++ rest = text := by
  induction text generalizing read with
  | nil => simp [takeArguments?] at found
  | cons character others ih =>
      unfold takeArguments? at found
      split at found
      · exact absurd found (by simp)
      · split at found
        · next remainder after closed =>
            rw [Option.some.injEq, Prod.mk.injEq] at found
            obtain ⟨rfl, rfl⟩ := found
            split at closed
            · simpa using takeLineRemainder?_append closed
            · exact absurd closed (by simp)
        · obtain ⟨⟨inner, after⟩, deeper, equal⟩ := Option.map_eq_some_iff.1 found
          rw [Prod.mk.injEq] at equal
          obtain ⟨rfl, rfl⟩ := equal
          simpa using ih deeper

theorem takeDecorator?_append (found : takeDecorator? text = some (read, rest)) :
    read ++ rest = text := by
  simp only [takeDecorator?, bind, Option.bind_eq_some_iff] at found
  obtain ⟨⟨sign, afterSign⟩, signFound, ⟨name, afterName⟩, nameFound, found⟩ := found
  have signWhole := (takeWord?_append signFound).2
  have nameWhole := takeRun1?_append nameFound
  dsimp only at nameWhole found
  split at found
  · next inner =>
      simp only [Option.bind_eq_some_iff, Option.map_eq_some_iff] at found
      obtain ⟨_, ⟨⟨arguments, after⟩, argumentsFound, rfl⟩, equal⟩ := found
      have argumentsWhole := takeArguments?_append argumentsFound
      simp only [pure, Option.some.injEq, Prod.mk.injEq] at equal
      obtain ⟨rfl, rfl⟩ := equal
      simp only [List.append_assoc, List.cons_append, argumentsWhole, nameWhole, signWhole]
  · simp only [Option.bind_eq_some_iff] at found
    obtain ⟨⟨remainder, after⟩, remainderFound, equal⟩ := found
    have remainderWhole := takeLineRemainder?_append remainderFound
    simp only [pure, Option.some.injEq, Prod.mk.injEq] at equal
    obtain ⟨rfl, rfl⟩ := equal
    simp only [List.append_assoc, remainderWhole, nameWhole, signWhole]

theorem takeDecorators_append (budget : Nat) (text : Text) :
    (takeDecorators budget text).1 ++ (takeDecorators budget text).2 = text := by
  induction budget generalizing text with
  | zero => rfl
  | succ budget ih =>
      unfold takeDecorators
      split
      · rfl
      · next line afterLine found =>
          have lineWhole := takeDecorator?_append found
          have gapWhole := takeRun_append isIndent afterLine
          have othersWhole := ih (takeRun isIndent afterLine).2
          simp only [List.append_assoc, othersWhole, gapWhole, lineWhole]

/-! ## Decorator lines -/

theorem newline_not_mem_of_indent {gap : Text} (blank : ∀ character ∈ gap, isIndent character) :
    '\n' ∉ gap := by
  intro member
  exact absurd (blank '\n' member) (by decide)

/-- A text that consists of one line with its newline. -/
def IsLine (text : Text) : Prop :=
  ∃ line, text = line ++ ['\n'] ∧ '\n' ∉ line

theorem IsLine.append {front : Text} (isLine : IsLine text) (inLine : '\n' ∉ front) :
    IsLine (front ++ text) := by
  obtain ⟨line, rfl, unbroken⟩ := isLine
  refine ⟨front ++ line, (List.append_assoc front line _).symm, ?_⟩
  rw [List.mem_append, not_or]
  exact ⟨inLine, unbroken⟩

theorem IsLine.cons {character : Char} (isLine : IsLine text) (inLine : character ≠ '\n') :
    IsLine (character :: text) :=
  isLine.append fun member => inLine (List.mem_singleton.1 member).symm

theorem takeLineRemainder?_isLine (found : takeLineRemainder? text = some (read, rest)) :
    IsLine read := by
  have gapLine := newline_not_mem_of_indent (forall_mem_takeRun isIndent text)
  unfold takeLineRemainder? at found
  generalize takeRun isIndent text = run at gapLine found
  obtain ⟨gap, after⟩ := run
  simp only at gapLine found
  split at found
  · rw [Option.some.injEq, Prod.mk.injEq] at found
    exact ⟨gap, found.1.symm, gapLine⟩
  · rw [Option.some.injEq, Prod.mk.injEq] at found
    exact ⟨gap ++ ['\r'], by rw [← found.1]; simp, by simpa using gapLine⟩
  · next others =>
      have comment := forall_mem_takeRun (· != '\n') ('#' :: others)
      split at found
      · rw [Option.some.injEq, Prod.mk.injEq] at found
        refine ⟨_, found.1.symm, ?_⟩
        rw [List.mem_append, not_or]
        exact ⟨gapLine, fun member => absurd (comment _ member) (by decide)⟩
      · exact absurd found (by simp)
  · exact absurd found (by simp)

theorem takeArguments?_isLine (found : takeArguments? text = some (read, rest)) :
    IsLine read := by
  induction text generalizing read with
  | nil => simp [takeArguments?] at found
  | cons character others ih =>
      unfold takeArguments? at found
      split at found
      · exact absurd found (by simp)
      · next inLine =>
          rw [beq_iff_eq] at inLine
          split at found
          · next remainder after closed =>
              rw [Option.some.injEq, Prod.mk.injEq] at found
              split at closed
              · rw [← found.1]
                exact (takeLineRemainder?_isLine closed).cons inLine
              · exact absurd closed (by simp)
          · obtain ⟨⟨inner, after⟩, deeper, equal⟩ := Option.map_eq_some_iff.1 found
            rw [Prod.mk.injEq] at equal
            rw [← equal.1]
            exact (ih (equal.2 ▸ deeper)).cons inLine

theorem isWord_newline : isWord '\n' = false := by
  decide +kernel

/-- A decorator is read with its line, and no further. -/
theorem takeDecorator?_isLine (found : takeDecorator? text = some (read, rest)) :
    IsLine read := by
  simp only [takeDecorator?, bind, Option.bind_eq_some_iff] at found
  obtain ⟨⟨sign, afterSign⟩, signFound, ⟨name, afterName⟩, nameFound, found⟩ := found
  have front : '\n' ∉ sign ++ name := by
    rw [List.mem_append, not_or, (takeWord?_append signFound).1]
    refine ⟨by decide, fun member => ?_⟩
    exact absurd ((takeRun1?_forall_mem nameFound).2 _ member) (by rw [isWord_newline]; decide)
  dsimp only at found
  split at found
  · simp only [Option.bind_eq_some_iff, Option.map_eq_some_iff] at found
    obtain ⟨_, ⟨⟨arguments, after⟩, argumentsFound, rfl⟩, equal⟩ := found
    simp only [pure, Option.some.injEq, Prod.mk.injEq] at equal
    rw [← equal.1]
    exact ((takeArguments?_isLine argumentsFound).cons (by decide)).append front
  · simp only [Option.bind_eq_some_iff] at found
    obtain ⟨⟨remainder, after⟩, remainderFound, equal⟩ := found
    simp only [pure, Option.some.injEq, Prod.mk.injEq] at equal
    rw [← equal.1]
    exact (takeLineRemainder?_isLine remainderFound).append front

theorem takeDecorator?_sign (found : takeDecorator? text = some (read, rest)) :
    ∃ others, read = '@' :: others := by
  simp only [takeDecorator?, bind, Option.bind_eq_some_iff] at found
  obtain ⟨⟨sign, afterSign⟩, signFound, ⟨name, afterName⟩, -, found⟩ := found
  obtain ⟨rfl, -⟩ := takeWord?_append signFound
  split at found
  all_goals
    simp only [Option.bind_eq_some_iff] at found
    obtain ⟨_, -, equal⟩ := found
    simp only [pure, Option.some.injEq, Prod.mk.injEq] at equal
    exact ⟨_, equal.1.symm⟩

theorem takeDecorators_sign (budget : Nat) (text : Text) :
    (takeDecorators budget text).1 = [] ∨
      ∃ others, (takeDecorators budget text).1 = '@' :: others := by
  cases budget with
  | zero => exact .inl rfl
  | succ budget =>
      unfold takeDecorators
      split
      · exact .inl rfl
      · next line afterLine found =>
          obtain ⟨others, rfl⟩ := takeDecorator?_sign found
          exact .inr ⟨_, rfl⟩

/-- Decorators are whole lines and the indentation of the line after them. -/
theorem takeDecorators_lines (budget : Nat) (text : Text) :
    ∃ lines gap, (takeDecorators budget text).1 = lines ++ gap ∧ Text.WholeLines lines ∧
      ∀ character ∈ gap, isIndent character := by
  induction budget generalizing text with
  | zero => exact ⟨[], [], rfl, .inl rfl, by simp⟩
  | succ budget ih =>
      unfold takeDecorators
      split
      · exact ⟨[], [], rfl, .inl rfl, by simp⟩
      · next line afterLine found =>
          obtain ⟨front, ends, -⟩ := takeDecorator?_isLine found
          have blank := forall_mem_takeRun isIndent afterLine
          obtain ⟨lines, gap, equal, whole, gapBlank⟩ := ih (takeRun isIndent afterLine).2
          simp only [equal]
          rcases whole with rfl | ⟨front', rfl⟩
          · refine ⟨line, (takeRun isIndent afterLine).1 ++ gap, by simp, .inr ⟨front, ends⟩, ?_⟩
            intro character member
            rcases List.mem_append.1 member with before | after
            · exact blank character before
            · exact gapBlank character after
          · exact ⟨line ++ (takeRun isIndent afterLine).1 ++ (front' ++ ['\n']), gap, by simp,
              .inr ⟨line ++ (takeRun isIndent afterLine).1 ++ front', by simp⟩, gapBlank⟩

/-! ## Parameters and results -/

theorem takeParameters?_append {depth : Nat}
    (found : takeParameters? depth text = some (read, rest)) : read ++ rest = text := by
  induction text generalizing depth read with
  | nil => simp [takeParameters?] at found
  | cons character others ih =>
      have taken {depth : Nat}
          (found : (takeParameters? depth others).map (fun inner =>
            (character :: inner.1, inner.2)) = some (read, rest)) :
          read ++ rest = character :: others := by
        obtain ⟨⟨inner, after⟩, deeper, equal⟩ := Option.map_eq_some_iff.1 found
        rw [Prod.mk.injEq] at equal
        obtain ⟨rfl, rfl⟩ := equal
        rw [List.cons_append, ih deeper]
      unfold takeParameters? at found
      split at found
      · cases depth with
        | zero =>
            simp only [Option.some.injEq, Prod.mk.injEq] at found
            obtain ⟨rfl, rfl⟩ := found
            rfl
        | succ depth => exact taken found
      · split at found
        · split at found
          · exact taken found
          · exact absurd found (by simp)
        · exact taken found

theorem takeResult?_append (found : takeResult? text = some (read, rest)) :
    read ++ rest = text := by
  have gapWhole := takeRun_append isIndent text
  simp only [takeResult?, bind] at found
  split at found
  · simp only [Option.bind_eq_some_iff] at found
    obtain ⟨_, equal, ⟨colon, afterColon⟩, colonFound, found⟩ := found
    rw [Option.some.injEq] at equal
    subst equal
    have colonWhole := (takeWord?_append colonFound).2
    simp only [pure, Option.some.injEq, Prod.mk.injEq] at found
    obtain ⟨rfl, rfl⟩ := found
    simp only [List.append_assoc, List.nil_append, colonWhole, gapWhole]
  · next arrow afterArrow arrowFound =>
      have arrowWhole := (takeWord?_append arrowFound).2
      simp only [Option.bind_eq_some_iff, Option.map_eq_some_iff] at found
      obtain ⟨_, ⟨⟨type, afterType⟩, typeFound, rfl⟩, ⟨colon, afterColon⟩, colonFound, found⟩ :=
        found
      have typeWhole := takeRun1?_append typeFound
      have colonWhole := (takeWord?_append colonFound).2
      simp only [pure, Option.some.injEq, Prod.mk.injEq] at found
      obtain ⟨rfl, rfl⟩ := found
      simp only at colonWhole
      simp only [List.append_assoc, colonWhole, typeWhole, arrowWhole, gapWhole]

theorem takeResult?_colon (found : takeResult? text = some (read, rest)) :
    ∃ front, read = front ++ [':'] := by
  simp only [takeResult?, bind] at found
  split at found
  all_goals
    simp only [Option.bind_eq_some_iff] at found
    obtain ⟨_, _, ⟨colon, afterColon⟩, colonFound, found⟩ := found
    obtain ⟨rfl, -⟩ := takeWord?_append colonFound
    simp only [pure, Option.some.injEq, Prod.mk.injEq] at found
    exact ⟨_, found.1.symm⟩

theorem takeBases?_append {before bases : Text}
    (found : takeBases? text = some (before, bases, rest)) :
    before ++ bases ++ [')'] ++ rest = text := by
  have gapWhole := takeRun_append isIndent text
  simp only [takeBases?, bind, Option.bind_eq_some_iff] at found
  obtain ⟨⟨opening, afterOpening⟩, openingFound, ⟨closing, afterClosing⟩, closingFound, equal⟩ :=
    found
  have openingWhole := (takeWord?_append openingFound).2
  have basesWhole := takeRun_append (· != ')') afterOpening
  obtain ⟨rfl, closingWhole⟩ := takeWord?_append closingFound
  simp only [pure, Option.some.injEq, Prod.mk.injEq] at equal
  obtain ⟨rfl, rfl, rfl⟩ := equal
  simp only [List.append_assoc]
  change _ ++ (_ ++ (_ ++ (")".toList ++ afterClosing))) = text
  rw [closingWhole, basesWhole, openingWhole, gapWhole]

/-! ## Whole headers -/

/-- The words in front of a name: they open a line with code, and they do not end it. -/
structure Keywords (opening : Text) : Prop where
  first : ∃ character others, opening = character :: others ∧ isBlank character = false ∧
    character ≠ '#'
  line : '\n' ∉ opening

theorem keywords_append {word : String} (keyword : word ∈ ["async", "def", "class"]) {rest : Text}
    (line : '\n' ∉ rest) : Keywords (word.toList ++ rest) := by
  simp only [List.mem_cons, List.not_mem_nil, or_false] at keyword
  rcases keyword with rfl | rfl | rfl
  · exact ⟨⟨'a', _, rfl, by decide, by decide⟩, by simp [line]⟩
  · exact ⟨⟨'d', _, rfl, by decide, by decide⟩, by simp [line]⟩
  · exact ⟨⟨'c', _, rfl, by decide, by decide⟩, by simp [line]⟩

/-- The keywords of a function start with `def`, after `async` where that is followed by a gap. -/
theorem takeFunctionOpening?_append {isAsync : Bool}
    (found : takeFunctionOpening? text = some ((read, isAsync), rest)) :
    read ++ rest = text ∧ Keywords read := by
  obtain ⟨mark, afterMark, markWhole, marks, found⟩ : ∃ mark afterMark, mark ++ afterMark = text ∧
      (mark = [] ∨ ∃ gap, mark = "async".toList ++ gap ∧ '\n' ∉ gap) ∧
      ((takeWord? "def" afterMark).bind fun word => (takeRun1? isIndent word.2).bind fun gap =>
        some ((mark ++ word.1 ++ gap.1, !mark.isEmpty), gap.2)) = some ((read, isAsync), rest) := by
    simp only [takeFunctionOpening?] at found
    split at found
    · exact ⟨[], text, rfl, .inl rfl, found⟩
    · next async afterAsync asyncFound =>
        split at found
        · exact ⟨[], text, rfl, .inl rfl, found⟩
        · next gap afterGap gapFound =>
            obtain ⟨rfl, asyncWhole⟩ := takeWord?_append asyncFound
            refine ⟨_, afterGap, ?_, .inr ⟨gap, rfl, ?_⟩, found⟩
            · rw [List.append_assoc, takeRun1?_append gapFound, asyncWhole]
            · exact newline_not_mem_of_indent (takeRun1?_forall_mem gapFound).2
  simp only [Option.bind_eq_some_iff] at found
  obtain ⟨⟨word, afterWord⟩, wordFound, ⟨gap, afterGap⟩, gapFound, equal⟩ := found
  obtain ⟨rfl, wordWhole⟩ := takeWord?_append wordFound
  have gapWhole := takeRun1?_append gapFound
  have gapLine := newline_not_mem_of_indent (takeRun1?_forall_mem gapFound).2
  simp only [Option.some.injEq, Prod.mk.injEq] at equal
  obtain ⟨⟨rfl, -⟩, rfl⟩ := equal
  constructor
  · simp only [List.append_assoc, gapWhole, wordWhole, markWhole]
  · rcases marks with rfl | ⟨asyncGap, rfl, asyncLine⟩
    · exact keywords_append (by simp) gapLine
    · rw [List.append_assoc, List.append_assoc]
      refine keywords_append (by simp) ?_
      simp [asyncLine, gapLine]

/-- The parts of a header behind its decorators, as they are read. -/
structure Header.Core (header : Header) : Prop where
  opening : Keywords header.opening
  name_ne_nil : header.name ≠ []
  name_word : ∀ character ∈ header.name, isWord character
  colon : ∃ front, header.tail = front ++ [':']

/-- What reading a header after its decorators comes to: its parts stand one after the other in
front of the rest. -/
structure Header.ReadFrom (header : Header) (text rest : Text) : Prop extends header.Core where
  whole : header.opening ++ header.name ++ header.tail ++ rest = text

theorem takeFunction?_readFrom {header : Header}
    (found : takeFunction? text = some (header, rest)) :
    header.ReadFrom text rest := by
  simp only [takeFunction?, bind, Option.bind_eq_some_iff] at found
  obtain ⟨⟨⟨opening, isAsync⟩, afterOpening⟩, openingFound, ⟨name, afterName⟩, nameFound,
    ⟨left, afterLeft⟩, leftFound, ⟨parameters, afterParameters⟩, parametersFound,
    ⟨right, afterRight⟩, rightFound, ⟨result, afterResult⟩, resultFound, equal⟩ := found
  obtain ⟨openingWhole, keywords⟩ := takeFunctionOpening?_append openingFound
  have nameWhole := takeRun1?_append nameFound
  obtain ⟨named, word⟩ := takeRun1?_forall_mem nameFound
  have gapWhole := takeRun_append isIndent afterName
  have leftWhole := (takeWord?_append leftFound).2
  have parametersWhole := takeParameters?_append parametersFound
  have rightWhole := (takeWord?_append rightFound).2
  have resultWhole := takeResult?_append resultFound
  obtain ⟨front, rfl⟩ := takeResult?_colon resultFound
  simp only [pure, Option.some.injEq, Prod.mk.injEq] at equal
  obtain ⟨rfl, rfl⟩ := equal
  simp only at nameWhole leftWhole parametersWhole rightWhole resultWhole
  refine ⟨⟨keywords, named, word, _, (List.append_assoc _ front _).symm⟩, ?_⟩
  simp only [List.append_assoc] at resultWhole ⊢
  simp only [resultWhole, rightWhole, parametersWhole, leftWhole, gapWhole, nameWhole,
    openingWhole]

theorem takeClass?_readFrom {header : Header} (found : takeClass? text = some (header, rest)) :
    header.ReadFrom text rest := by
  simp only [takeClass?, bind, Option.bind_eq_some_iff] at found
  obtain ⟨⟨word, afterWord⟩, wordFound, ⟨gap, afterGap⟩, gapFound, ⟨name, afterName⟩, nameFound,
    ⟨colon, afterColon⟩, colonFound, equal⟩ := found
  obtain ⟨rfl, wordWhole⟩ := takeWord?_append wordFound
  have gapWhole := takeRun1?_append gapFound
  have gapLine := newline_not_mem_of_indent (takeRun1?_forall_mem gapFound).2
  have nameWhole := takeRun1?_append nameFound
  obtain ⟨named, nameWord⟩ := takeRun1?_forall_mem nameFound
  obtain ⟨rfl, colonWhole⟩ := takeWord?_append colonFound
  simp only [pure, Option.some.injEq, Prod.mk.injEq] at equal
  obtain ⟨rfl, rfl⟩ := equal
  simp only at gapWhole nameWhole
  refine ⟨⟨keywords_append (by simp) gapLine, named, nameWord, _, rfl⟩, ?_⟩
  cases basesFound : takeBases? afterName with
  | none =>
      simp only [basesFound] at colonWhole ⊢
      have tailWhole := takeRun_append isIndent afterName
      simp only [List.append_assoc, List.nil_append, colonWhole, tailWhole, nameWhole, gapWhole,
        wordWhole]
  | some bases =>
      obtain ⟨before, bases, afterBases⟩ := bases
      simp only [basesFound] at colonWhole ⊢
      have basesWhole := takeBases?_append basesFound
      have tailWhole := takeRun_append isIndent afterBases
      simp only [List.append_assoc] at basesWhole
      simp only [List.append_assoc, colonWhole, tailWhole, basesWhole, nameWhole, gapWhole,
        wordWhole]

/-- A header as it is read: the indentation of its first line, decorator lines with the indentation
after each, and what is behind them. -/
structure Header.Formed (header : Header) : Prop extends header.Core where
  lead_blank : ∀ character ∈ header.lead, isIndent character
  decorators_lines : ∃ lines gap, header.decorators = lines ++ gap ∧ Text.WholeLines lines ∧
    ∀ character ∈ gap, isIndent character
  decorators_sign : header.decorators = [] ∨ ∃ others, header.decorators = '@' :: others

/-- What stands behind the indentation of the first line opens a line with code. -/
theorem Header.Formed.first {header : Header} (formed : header.Formed) :
    ∃ character others, header.decorators ++ header.opening = character :: others ∧
      isBlank character = false ∧ character ≠ '#' := by
  rcases formed.decorators_sign with undecorated | ⟨others, sign⟩
  · rw [undecorated]
    exact formed.opening.first
  · rw [sign]
    exact ⟨'@', _, rfl, by decide, by decide⟩

theorem Header.Core.two_le_length {header : Header} (core : header.Core) : 2 ≤ header.length := by
  obtain ⟨front, ends⟩ := core.colon
  have name := List.length_pos_iff.2 core.name_ne_nil
  simp only [Header.length, Header.text, ends, List.length_append, List.length_singleton]
  omega

/-- A header ends with its colon. -/
theorem Header.Core.text_eq {header : Header} (core : header.Core) :
    ∃ front, header.text = front ++ [':'] := by
  obtain ⟨front, ends⟩ := core.colon
  exact ⟨header.lead ++ header.decorators ++ header.opening ++ header.name ++ front,
    by rw [Header.text, ends, List.append_assoc _ front]⟩

theorem takeHeader?_append {kind : HeaderKind} {header : Header}
    (found : takeHeader? kind text = some (header, rest)) :
    header.text ++ rest = text ∧ header.Formed := by
  have leadWhole := takeRun_append isIndent text
  obtain ⟨bare, readFrom, equal⟩ : ∃ bare : Header,
      bare.ReadFrom
          (takeDecorators (takeRun isIndent text).2.length (takeRun isIndent text).2).2 rest ∧
        { bare with
          lead := (takeRun isIndent text).1
          decorators :=
            (takeDecorators (takeRun isIndent text).2.length (takeRun isIndent text).2).1 } =
          header := by
    simp only [takeHeader?, bind] at found
    cases kind with
    | functionHeader =>
        simp only [Option.bind_eq_some_iff] at found
        obtain ⟨⟨bare, after⟩, bareFound, equal⟩ := found
        simp only [pure, Option.some.injEq, Prod.mk.injEq] at equal
        obtain ⟨equal, rfl⟩ := equal
        exact ⟨bare, takeFunction?_readFrom bareFound, equal⟩
    | classHeader =>
        simp only [Option.bind_eq_some_iff] at found
        obtain ⟨⟨bare, after⟩, bareFound, equal⟩ := found
        simp only [pure, Option.some.injEq, Prod.mk.injEq] at equal
        obtain ⟨equal, rfl⟩ := equal
        exact ⟨bare, takeClass?_readFrom bareFound, equal⟩
  have decoratorsWhole := takeDecorators_append (takeRun isIndent text).2.length
    (takeRun isIndent text).2
  have bareWhole := readFrom.whole
  subst equal
  constructor
  · simp only [Header.text, List.append_assoc] at bareWhole ⊢
    rw [bareWhole, decoratorsWhole, leadWhole]
  · exact ⟨⟨readFrom.opening, readFrom.name_ne_nil, readFrom.name_word, readFrom.colon⟩,
      forall_mem_takeRun isIndent text, takeDecorators_lines _ _, takeDecorators_sign _ _⟩

theorem takeHeader?_newline (kind : HeaderKind) (rest : Text) :
    takeHeader? kind ('\n' :: rest) = none := by
  cases kind <;> rfl

/-! ## Headers of a source -/

/-- Every located header is one that is read at its offset, where a line starts. -/
theorem exists_takeHeader?_of_mem_headersFrom {kind : HeaderKind} {offset skip : Nat}
    {atLineStart : Bool} {located : LocatedHeader}
    (member : located ∈ headersFrom kind offset atLineStart skip text) :
    ∃ position rest, located.offset = offset + position ∧
      takeHeader? kind (text.drop position) = some (located.header, rest) ∧
      (position = 0 ∧ atLineStart = true ∨ ∃ front, text.take position = front ++ ['\n']) := by
  induction text generalizing offset skip atLineStart with
  | nil => simp [headersFrom] at member
  | cons character others ih =>
      have later {skip : Nat}
          (inside : located ∈ headersFrom kind (offset + 1) (character == '\n') skip others) :
          ∃ position rest, located.offset = offset + position ∧
            takeHeader? kind ((character :: others).drop position) =
              some (located.header, rest) ∧
            (position = 0 ∧ atLineStart = true ∨
              ∃ front, (character :: others).take position = front ++ ['\n']) := by
        obtain ⟨position, rest, equal, found, start⟩ := ih inside
        refine ⟨position + 1, rest, by omega, found, .inr ?_⟩
        rw [List.take_succ_cons]
        rcases start with ⟨rfl, newline⟩ | ⟨front, ends⟩
        · exact ⟨[], by rw [eq_of_beq newline]; rfl⟩
        · exact ⟨character :: front, by rw [ends]; rfl⟩
      unfold headersFrom at member
      cases skip with
      | succ skip => exact later member
      | zero =>
          simp only at member
          split at member
          · next header rest found =>
              rcases List.mem_cons.1 member with rfl | inside
              · split at found
                · next start => exact ⟨0, rest, rfl, found, .inl ⟨rfl, start⟩⟩
                · exact absurd found (by simp)
              · exact later inside
          · exact later member

/-- A header of a source stands in it behind whole lines, and it does not start with a newline. -/
structure LocatedHeader.In (located : LocatedHeader) (source : Text) : Prop where
  formed : located.header.Formed
  lineStart : Text.WholeLines (source.take located.offset)
  exists_rest : ∃ rest, source.drop located.offset = located.header.text ++ rest
  first_ne_newline : ∃ character, source[located.offset]? = some character ∧ character ≠ '\n'

namespace LocatedHeader.In

variable {located : LocatedHeader} {source : Text}

theorem two_le_length (header : located.In source) : 2 ≤ located.header.length :=
  header.formed.two_le_length

theorem stop_le (header : located.In source) : located.stop ≤ source.length := by
  obtain ⟨rest, whole⟩ := header.exists_rest
  have long := header.two_le_length
  have length := congrArg List.length whole
  have same : located.header.text.length = located.header.length := rfl
  rw [List.length_append, List.length_drop] at length
  simp only [LocatedHeader.stop]
  omega

end LocatedHeader.In

/-- A header is in a source when it is read there behind whole lines. -/
theorem in_of_takeHeader? {kind : HeaderKind} {source : Text} {located : LocatedHeader}
    (found : takeHeader? kind (source.drop located.offset) = some (located.header, rest))
    (lineStart : Text.WholeLines (source.take located.offset)) : located.In source := by
  obtain ⟨whole, formed⟩ := takeHeader?_append found
  refine ⟨formed, lineStart, ⟨rest, whole.symm⟩, ?_⟩
  have first : (source.drop located.offset)[0]? = source[located.offset]? := List.getElem?_drop
  cases dropped : source.drop located.offset with
  | nil =>
      have long := formed.two_le_length
      have length := congrArg List.length whole
      rw [dropped, List.length_append, List.length_nil] at length
      have same : located.header.text.length = located.header.length := rfl
      omega
  | cons character others =>
      refine ⟨character, by rw [← first, dropped]; rfl, ?_⟩
      rintro rfl
      rw [dropped, takeHeader?_newline] at found
      exact absurd found (by simp)

theorem in_of_mem_headers {kind : HeaderKind} {source : Text} {located : LocatedHeader}
    (member : located ∈ headers kind source) : located.In source := by
  obtain ⟨position, rest, offset, found, start⟩ := exists_takeHeader?_of_mem_headersFrom member
  rw [Nat.zero_add] at offset
  subst offset
  refine in_of_takeHeader? found ?_
  rcases start with ⟨first, -⟩ | later
  · rw [first]
    exact .inl rfl
  · exact .inr later

end Segmentation.Indentation
