import Segmentation.Proofs.Indentation.Extent
import Segmentation.Proofs.Indentation.Scan
import Segmentation.Proofs.Text.Marks
import Segmentation.Proofs.Text.Pieces

/-!
# Written declarations are found as they are written

A source of blocks at one indentation has one chunk for each of them, in their order. The chunk of a
block is fixed by the parts that the block is written from: it runs from the first decorator to the
last line of code in the body.
-/

namespace Segmentation.Indentation

/-! ## Lines around a block -/

/-- The first line of code that does not stay inside ends a block; blank and comment lines in front
of it are left out. -/
theorem blockLines_append {baseIndent : Int} {body : List Text}
    (inside : ∀ line ∈ body, staysInside baseIndent line = true) {others : List Text}
    (ends : others = [[]] ∨ ∀ line ∈ others.head?, staysInside baseIndent line = false) :
    blockLines baseIndent (body ++ others) = body.rdropWhile isSkippable := by
  rw [blockLines_eq, List.takeWhile_append_of_pos inside]
  rcases ends with rfl | ends
  · rw [List.takeWhile_cons_of_pos (staysInside_of_not_isCode not_isCode_nil baseIndent),
      List.takeWhile_nil, List.rdropWhile_concat_pos _ _ _ (by decide)]
  · cases others with
    | nil => rw [List.takeWhile_nil, List.append_nil]
    | cons line later =>
        have stops := ends line rfl
        rw [List.takeWhile_cons_of_neg (by rw [stops]; exact Bool.false_ne_true), List.append_nil]

/-! ## Decorator lines -/

namespace Written

variable {indent : Text}

/-- The entry of a decorator line is the line itself. -/
theorem entries_decoratorText (blank : ∀ character ∈ indent, isIndent character)
    (decorators : List Decorator) {lead : Text}
    (leadBlank : ∀ character ∈ lead, isIndent character) :
    entries (lead ++ decoratorText indent decorators) = decorators.map (·.line.trim) := by
  have leading : ∀ character ∈ lead, isBlank character = true := fun character member =>
    isBlank_of_isIndent (leadBlank character member)
  induction decorators generalizing lead with
  | nil => rw [decoratorText_nil, List.append_nil, entries_of_blank leading, List.map_nil]
  | cons decorator others ih =>
      have unbroken : ∀ character ∈ decorator.line.trim, Text.isLineBreak character = false :=
        fun character member =>
          decorator.unbroken_line character ((Text.trim_isInfix decorator.line).subset member)
      have filled : decorator.line.trim ≠ [] :=
        Text.trim_ne_nil (List.mem_cons_self : '@' ∈ decorator.line) (by decide)
      rw [decoratorText_cons, ← List.append_assoc, entries_append_break (by decide),
        entries_append_left leading, entries_eq_singleton filled unbroken, ih blank,
        List.map_cons, List.singleton_append]
      exact fun character member => isBlank_of_isIndent (blank character member)

namespace Block

variable (block : Block indent)

theorem decoratorEntries_header (blank : ∀ character ∈ indent, isIndent character) :
    block.header.decoratorEntries = block.decorators.map (·.line.trim) :=
  entries_decoratorText blank block.decorators (List.forall_mem_nil _)

theorem signature_header : block.header.signature = block.heading.signature := by
  rw [header, Header.signature, Heading.signature]
  cases block.heading with
  | function heading =>
      simp only [Heading.header, Heading.kind, Heading.words, Heading.name, Heading.isAsync,
        Heading.list, List.append_assoc, apply_ite String.toList]
      rfl
  | class_ heading =>
      have filled := heading.bases_ne_nil
      simp only [Heading.header, Heading.kind, Heading.words, Heading.name, Heading.list,
        List.append_assoc]
      cases bases : heading.bases with
      | none => rfl
      | some list =>
          rw [bases] at filled
          cases list with
          | nil => exact absurd rfl filled
          | cons first others => rfl

/-! ## The place of a block -/

/-- The header of a block that stands behind a text. -/
def locatedHeader (before : Text) : LocatedHeader :=
  ⟨before.length, block.header⟩

theorem newline_not_mem_headLines (blank : ∀ character ∈ indent, isIndent character) :
    ∀ line ∈ block.headLines, '\n' ∉ line := by
  intro line member
  rcases List.mem_append.1 member with decorated | heading
  · obtain ⟨decorator, -, rfl⟩ := List.mem_map.1 decorated
    rw [List.mem_append, not_or]
    exact ⟨newline_not_mem_of_indent blank, decorator.newline_not_mem_line⟩
  · exact Text.not_mem_of_mem_lines heading

theorem exists_text_eq (blank : ∀ character ∈ indent, isIndent character) :
    ∃ character others, block.text = indent ++ character :: others ∧
      isBlank character = false ∧ character ≠ '#' := by
  have formed := (takeHeader?_append (block.takeHeader?_text blank [])).2
  obtain ⟨character, others, opening, filled, noComment⟩ := formed.opening.first
  have heading : block.heading.words.toList = character :: others := opening
  rw [text_eq_header, text_header, List.append_assoc, List.append_assoc, Heading.text,
    Heading.signature, heading]
  cases block.decorators with
  | nil => exact ⟨character, _, rfl, filled, noComment⟩
  | cons decorator others => exact ⟨'@', _, rfl, by decide, by decide⟩

/-! The lines of a block up to the last one of code. -/

theorem lines_ne_nil : block.headLines ++ block.code ≠ [] := by
  simp [headLines, Text.lines_ne_nil]

theorem newline_not_mem_lines (blank : ∀ character ∈ indent, isIndent character) :
    ∀ line ∈ block.headLines ++ block.code, '\n' ∉ line := by
  intro line member
  rcases List.mem_append.1 member with head | code
  · exact block.newline_not_mem_headLines blank line head
  · exact block.body_line line ((List.rdropWhile_prefix _ _).subset code)

theorem exists_text_eq_unlines :
    ∃ behind, block.text = Text.unlines (block.headLines ++ block.code) ++ behind := by
  have body : block.code ++ block.body.rtakeWhile isSkippable = block.body :=
    List.rdropWhile_append_rtakeWhile
  refine ⟨Text.unlines (block.body.rtakeWhile isSkippable), ?_⟩
  rw [← Text.unlines_append, List.append_assoc, body, text]

/-- A block stands in a source behind whole lines, and what follows ends it. -/
structure StandsIn (block : Block indent) (before after source : Text) : Prop where
  blank : ∀ character ∈ indent, isIndent character
  whole : before.WholeLines
  source_eq : source = before ++ (block.text ++ after)
  ends : after = [] ∨ ∀ line ∈ after.lines.head?, staysInside indent.length line = false

namespace StandsIn

variable {block} {before after source : Text} (stands : block.StandsIn before after source)

include stands

theorem header_in : (block.locatedHeader before).In source := by
  have found : takeHeader? block.heading.kind
      (source.drop (block.locatedHeader before).offset) =
        some (block.header, block.trailer ++ '\n' :: Text.unlines block.body ++ after) := by
    rw [stands.source_eq, locatedHeader, List.drop_left, text_eq_header, List.append_assoc]
    exact block.takeHeader?_text stands.blank _
  refine in_of_takeHeader? found ?_
  rw [stands.source_eq, locatedHeader, List.take_left]
  exact stands.whole

theorem indent_eq : (block.locatedHeader before).indent source = indent.length := by
  have front : block.header.lead ++ block.header.decorators =
      Text.unlines (block.decorators.map (indent ++ ·.line)) ++ indent :=
    (unlines_decorators block.decorators).symm
  have split : source =
      before ++ Text.unlines (block.decorators.map (indent ++ ·.line)) ++ (indent ++
        (block.header.opening ++ (block.header.name ++ (block.header.tail ++
          (block.trailer ++ '\n' :: Text.unlines block.body ++ after))))) := by
    rw [stands.source_eq, text_eq_header, Header.text, front]
    simp only [List.append_assoc]
  refine stands.header_in.indent_eq split (stands.whole.append (Text.wholeLines_unlines _))
    stands.blank ?_
  rw [LocatedHeader.nameOffset, Header.nameStart, locatedHeader, front]
  simp only [List.length_append]
  omega

/-- The lines of a heading are those up to the one with its colon. -/
theorem colonLine_succ : (block.locatedHeader before).colonLine source + 1 =
    before.newlines + block.headLines.length := by
  obtain ⟨front, ends⟩ := stands.header_in.formed.text_eq
  have header : block.header.text = front ++ [':'] := ends
  have count := Text.newlines_unlines (block.newline_not_mem_headLines stands.blank)
  have trailer := Text.newlines_eq_zero_iff.2 block.trailer_line
  have stop : source.take ((block.locatedHeader before).stop - 1) = before ++ front := by
    have length : (block.locatedHeader before).stop - 1 = (before ++ front).length := by
      simp only [LocatedHeader.stop, locatedHeader, Header.length, header, List.length_append,
        List.length_singleton]
      omega
    rw [length, stands.source_eq, text_eq_header, header, List.append_assoc, List.append_assoc,
      ← List.append_assoc, List.take_left]
  rw [unlines_headLines, header, Text.newlines_append, Text.newlines_append, Text.newlines_append,
    trailer, show Text.newlines [':'] = 0 from rfl, show Text.newlines ['\n'] = 1 from rfl] at count
  rw [LocatedHeader.colonLine, stop, Text.newlines_append]
  omega

theorem drop_lines : source.lines.drop ((block.locatedHeader before).colonLine source + 1) =
    block.body ++ after.lines := by
  have heads := Text.wholeLines_unlines block.headLines
  have count := Text.newlines_unlines (block.newline_not_mem_headLines stands.blank)
  have place : before.newlines + block.headLines.length =
      (before ++ Text.unlines block.headLines).newlines := by
    rw [Text.newlines_append, count]
  have split : source =
      before ++ Text.unlines block.headLines ++ (Text.unlines block.body ++ after) := by
    rw [stands.source_eq, text, Text.unlines_append]
    simp only [List.append_assoc]
  rw [stands.colonLine_succ, place, split, (stands.whole.append heads).drop_lines,
    Text.lines_unlines_append block.body_line]

theorem lastLine_succ : (block.locatedHeader before).lastLine source + 1 =
    before.newlines + (block.headLines ++ block.code).length := by
  have inside : ∀ line ∈ block.body, staysInside indent.length line = true := by
    intro line member
    rw [staysInside, Bool.or_eq_true, decide_eq_true_iff]
    exact (block.body_inside line member).imp id Int.ofNat_lt.2
  have body : blockLines indent.length (block.body ++ after.lines) = block.code := by
    refine blockLines_append inside (stands.ends.imp ?_ id)
    rintro rfl
    rfl
  have last := LocatedHeader.In.blockEnd_eq (block.locatedHeader before) source
  have colon := stands.colonLine_succ
  rw [blockEnd, stands.drop_lines, stands.indent_eq, body] at last
  rw [List.length_append]
  omega

theorem endOffset_chunkOf :
    (chunkOf source (LineTable.ofText source) (block.locatedHeader before)).endOffset =
      before.length + (Text.joinLines (block.headLines ++ block.code)).length := by
  obtain ⟨behind, front⟩ := block.exists_text_eq_unlines
  have split : source =
      before ++ Text.unlines (block.headLines ++ block.code) ++ (behind ++ after) := by
    rw [stands.source_eq, front]
    simp only [List.append_assoc]
  have whole := stands.whole.append (Text.wholeLines_unlines (block.headLines ++ block.code))
  have stop := whole.lineOffset_append (behind ++ after)
  rw [← split, Text.newlines_append,
    Text.newlines_unlines (block.newline_not_mem_lines stands.blank)] at stop
  have length : (before ++ Text.unlines (block.headLines ++ block.code)).length =
      before.length + (Text.joinLines (block.headLines ++ block.code)).length + 1 := by
    rw [Text.unlines_eq_joinLines block.lines_ne_nil, ← List.append_assoc, List.length_append,
      List.length_append]
    rfl
  rw [stands.header_in.endOffset_chunkOf, stands.lastLine_succ, stop, length]
  omega

theorem chunkOf_eq : chunkOf source (LineTable.ofText source) (block.locatedHeader before) =
    block.chunk before after := by
  have header := stands.header_in
  have stop := stands.endOffset_chunkOf
  refine Chunk.ext rfl rfl ?startLine ?endLine rfl stop ?content ?signature ?docComment ?decorators
    rfl rfl rfl rfl rfl rfl rfl rfl
  case startLine =>
    rw [header.startLine_chunkOf, LocatedHeader.firstLine, stands.source_eq, locatedHeader,
      List.take_left]
    rfl
  case endLine =>
    have lastLine := stands.lastLine_succ
    rw [header.endLine_chunkOf]
    simp only [chunk]
    omega
  case content =>
    obtain ⟨behind, front⟩ := block.exists_text_eq_unlines
    rw [Text.unlines_eq_joinLines block.lines_ne_nil, List.append_assoc] at front
    have slice : (chunkOf source (LineTable.ofText source) (block.locatedHeader before)).content =
        source.slice before.length
          (before.length + (Text.joinLines (block.headLines ++ block.code)).length : Nat) := by
      rw [Int.natCast_add, ← stop]
      rfl
    rw [slice, stands.source_eq, Text.slice_natCast, List.drop_left, Nat.add_sub_cancel_left,
      front, List.append_assoc, List.take_left]
    rfl
  case signature => exact congrArg some block.signature_header
  case docComment =>
    rw [header.docComment_chunkOf, docString?, stands.drop_lines]
    rfl
  case decorators => exact block.decoratorEntries_header stands.blank

end StandsIn

end Block

/-! ## Sources -/

section

variable (blank : ∀ character ∈ indent, isIndent character)

include blank

theorem source_ends (blocks : List (Block indent)) : source blocks = [] ∨
    ∀ line ∈ (source blocks).lines.head?, staysInside indent.length line = false := by
  cases blocks with
  | nil => exact .inl rfl
  | cons block others =>
      refine .inr fun line head => ?_
      obtain ⟨character, rest, text, filled, noComment⟩ := block.exists_text_eq blank
      have gapBlank (other : Char) (member : other ∈ indent) : isBlank other :=
        isBlank_of_isIndent (blank other member)
      have inLine : (character != '\n') = true := by
        rw [bne_iff_ne]
        rintro rfl
        exact absurd filled (by decide)
      have gapLine := Text.bne_newline (newline_not_mem_of_indent blank)
      rw [source_cons, text, Text.head?_lines, List.append_assoc, List.cons_append,
        List.takeWhile_append_of_pos gapLine, List.takeWhile_cons, if_pos inLine] at head
      obtain rfl := Option.some.inj head
      rw [Bool.eq_false_iff, Ne, (isCode_of_first gapBlank filled noComment).staysInside_iff,
        indentWidth_eq gapBlank filled]
      exact Int.lt_irrefl _

/-- The chunks of the headers of blocks are those that are expected. -/
theorem map_chunkOf_located {before : Text} (whole : before.WholeLines)
    (blocks : List (Block indent)) :
    (located before.length blocks).map
        (chunkOf (before ++ source blocks) (LineTable.ofText (before ++ source blocks))) =
      chunksFrom before blocks := by
  induction blocks generalizing before with
  | nil => rfl
  | cons block others ih =>
      have later := ih (whole.append (Text.wholeLines_unlines (block.headLines ++ block.body)))
      rw [← Block.text, List.append_assoc, List.length_append] at later
      rw [source_cons, located, List.map_cons, chunksFrom, later]
      have stands : block.StandsIn before (source others)
          (before ++ (block.text ++ source others)) :=
        ⟨blank, whole, rfl, source_ends blank others⟩
      exact congrArg (· :: _) stands.chunkOf_eq

end

theorem chunksFrom_increase (before : Text) (blocks : List (Block indent)) :
    (chunksFrom before blocks).Pairwise (fun left right => left.startOffset < right.startOffset) ∧
      ∀ chunk ∈ chunksFrom before blocks, (before.length : Int) ≤ chunk.startOffset := by
  induction blocks generalizing before with
  | nil => exact ⟨.nil, List.forall_mem_nil _⟩
  | cons block others ih =>
      obtain ⟨increase, later⟩ := ih (before ++ block.text)
      have filled : 0 < block.text.length := by
        rw [block.text_eq_header]
        simp only [List.length_append, List.length_cons]
        omega
      rw [List.length_append] at later
      refine ⟨List.pairwise_cons.2 ⟨fun chunk member => ?_, increase⟩, ?_⟩
      · have behind := later chunk member
        simp only [Block.chunk]
        omega
      · rw [chunksFrom, List.forall_mem_cons]
        refine ⟨Int.le_refl _, fun chunk member => ?_⟩
        have behind := later chunk member
        omega

/-- Declarations that are written one after the other at one indentation are found as they are
written, each of them once. -/
theorem chunks_source (blank : ∀ character ∈ indent, isIndent character)
    {blocks : List (Block indent)} (notEmpty : blocks ≠ []) :
    chunks (source blocks) = chunksFrom [] blocks := by
  have found := map_chunkOf_located blank (.inl rfl) blocks
  refine chunks_eq ?_ ?_ (chunksFrom_increase [] blocks).1
  · rw [← found]
    exact ((allHeaders_source blank blocks).map _).symm
  · obtain ⟨block, others, rfl⟩ := List.exists_cons_of_ne_nil notEmpty
    exact List.cons_ne_nil _ _

/-- A function with decorators and with a heading on two lines. -/
def cachedReader : Block "  ".toList where
  decorators := [
    { name := "cache.lru".toList, arguments := some "size=(8)".toList, gap := " ".toList
      comment := some " keep".toList, name_ne_nil := by decide, name_dotted := by decide +kernel
      arguments_unbroken := by decide, gap_blank := by decide, comment_unbroken := by decide },
    { name := "traced".toList, name_ne_nil := by decide, name_dotted := by decide +kernel
      arguments_unbroken := by decide, gap_blank := by decide, comment_unbroken := by decide }]
  heading := .function {
    isAsync := true, name := "read".toList, parameters := "path, at=(1, (2)),\n      *rest".toList
    result := some "dict[str, int]".toList, name_ne_nil := by decide
    name_word := by decide +kernel, parameters_balanced := by decide, result_line := by decide }
  trailer := " # opens".toList
  body := ["    return path".toList, [], "  # next".toList]
  trailer_line := by decide
  body_line := by decide
  body_inside := by decide
  heading_plain := by decide
  body_plain := by decide

/-- A class on one line. -/
def derivedClass : Block "  ".toList where
  decorators := []
  heading := .class_ {
    name := "Parser".toList, bases := some "Base, metaclass=Meta".toList, name_ne_nil := by decide
    name_word := by decide +kernel, bases_ne_nil := by decide, bases_flat := by decide }
  trailer := " pass".toList
  body := []
  trailer_line := by decide
  body_line := by decide
  body_inside := by decide
  heading_plain := by decide
  body_plain := by decide

/-- The two blocks are found on the lines that they are written on. -/
theorem chunks_source_cachedReader :
    source [cachedReader, derivedClass] = Text.unlines (List.map String.toList [
      "  @cache.lru(size=(8)) # keep",
      "  @traced",
      "  async def read(path, at=(1, (2)),",
      "      *rest) -> dict[str, int]: # opens",
      "    return path",
      "",
      "  # next",
      "  class Parser(Base, metaclass=Meta): pass"]) ∧
    (∀ character ∈ "  ".toList, isIndent character) ∧ [cachedReader, derivedClass] ≠ [] ∧
    chunks (source [cachedReader, derivedClass]) = chunksFrom [] [cachedReader, derivedClass] ∧
    (chunksFrom [] [cachedReader, derivedClass]).map
      (fun chunk => (chunk.startLine, chunk.endLine)) = [(1, 5), (8, 8)] :=
  ⟨by decide +kernel, by decide, List.cons_ne_nil _ _,
    chunks_source (by decide) (List.cons_ne_nil _ _), by decide +kernel⟩

end Written

end Segmentation.Indentation
