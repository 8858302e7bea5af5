import Segmentation.Proofs.Indentation.Reading

/-!
# Headers of written declarations

Looking for headers goes through a text line by line: a line without a header is passed, and what a
header takes is stepped over. In a text of written blocks the headers of a kind are those of the
blocks of that kind, each where its block starts.
-/

namespace Segmentation.Indentation

variable {kind : HeaderKind} {offset : Nat} {rest : Text}

/-! ## Lines -/

theorem headersFrom_inLine {line : Text} (inLine : '\n' ∉ line) (rest : Text) :
    headersFrom kind offset false 0 (line ++ '\n' :: rest) =
      headersFrom kind (offset + line.length + 1) true 0 rest := by
  induction line generalizing offset with
  | nil => rfl
  | cons character others ih =>
      rw [List.mem_cons, not_or] at inLine
      have newline : (character == '\n') = false := by simpa using Ne.symm inLine.1
      rw [List.cons_append, headersFrom, if_neg Bool.false_ne_true]
      simp only [newline]
      rw [ih inLine.2, List.length_cons, show offset + 1 + others.length + 1 =
        offset + (others.length + 1) + 1 by omega]

theorem headersFrom_plain {line : Text} (inLine : '\n' ∉ line)
    (unread : takeHeader? kind (line ++ '\n' :: rest) = none) :
    headersFrom kind offset true 0 (line ++ '\n' :: rest) =
      headersFrom kind (offset + line.length + 1) true 0 rest := by
  have same : headersFrom kind offset true 0 (line ++ '\n' :: rest) =
      headersFrom kind offset false 0 (line ++ '\n' :: rest) := by
    cases whole : line ++ '\n' :: rest with
    | nil => rfl
    | cons character others =>
        rw [whole] at unread
        rw [headersFrom, headersFrom, if_pos rfl, unread, if_neg Bool.false_ne_true]
  rw [same, headersFrom_inLine inLine]

/-- Lines on which nothing looks declared are passed. -/
theorem headersFrom_lines {lines : List Text} (inLines : ∀ line ∈ lines, '\n' ∉ line)
    (plain : ∀ line ∈ lines, looksDeclared line = false) (rest : Text) :
    headersFrom kind offset true 0 (Text.unlines lines ++ rest) =
      headersFrom kind (offset + (Text.unlines lines).length) true 0 rest := by
  induction lines generalizing offset with
  | nil => rfl
  | cons line others ih =>
      rw [List.forall_mem_cons] at inLines plain
      rw [Text.unlines_cons, List.append_assoc, List.cons_append, headersFrom_plain inLines.1
        (takeHeader?_eq_none_of_plain kind plain.1 _), ih inLines.2 plain.2, List.length_append,
        List.length_cons, Nat.add_assoc, Nat.add_assoc, Nat.add_comm 1]

/-! ## Headers -/

/-- What belongs to a header is stepped over; it ends with a colon and so within a line. -/
theorem headersFrom_skip {lineStart : Bool} (piece rest : Text) :
    headersFrom kind offset lineStart (piece.length + 1) (piece ++ ':' :: rest) =
      headersFrom kind (offset + piece.length + 1) false 0 rest := by
  induction piece generalizing offset lineStart with
  | nil => rfl
  | cons character others ih =>
      rw [List.cons_append, List.length_cons, headersFrom, ih]
      rw [show offset + 1 + others.length + 1 = offset + (others.length + 1) + 1 by omega]

/-- A header is found at the start of a line, and looking goes on behind its colon. -/
theorem headersFrom_header {header : Header} (formed : header.Formed) {after : Text}
    (found : takeHeader? kind (header.text ++ rest) = some (header, after)) :
    headersFrom kind offset true 0 (header.text ++ rest) =
      ⟨offset, header⟩ :: headersFrom kind (offset + header.length) false 0 rest := by
  have long := formed.two_le_length
  have length : header.text.length = header.length := rfl
  obtain ⟨first, others, ends⟩ : ∃ first others, header.text = first :: (others ++ [':']) := by
    obtain ⟨front, ends⟩ := formed.text_eq
    cases front with
    | nil =>
        rw [ends] at length
        exact absurd long (by rw [← length]; decide)
    | cons first others => exact ⟨first, others, ends⟩
  rw [ends, List.length_cons, List.length_append, List.length_singleton] at length
  rw [ends, List.cons_append, List.append_assoc, List.singleton_append] at found ⊢
  rw [headersFrom, if_pos rfl, found]
  dsimp only
  rw [← length, Nat.add_sub_cancel, headersFrom_skip,
    show offset + 1 + others.length + 1 = offset + (others.length + 1 + 1) by omega]

/-! ## Blocks -/

namespace Written

variable {indent : Text}

/-- Decorator lines leave the heading with the indentation that each of them has. -/
theorem unlines_decorators (decorators : List Decorator) :
    Text.unlines (decorators.map (indent ++ ·.line)) ++ indent =
      indent ++ decoratorText indent decorators := by
  induction decorators with
  | nil => exact (List.append_nil indent).symm
  | cons decorator others ih =>
      rw [List.map_cons, Text.unlines_cons, List.append_assoc, List.cons_append, ih,
        decoratorText_cons, List.append_assoc]

namespace Block

variable (block : Block indent)

/-- The header of a block. -/
def header : Header :=
  block.heading.header indent (decoratorText indent block.decorators)

theorem text_header : block.header.text =
    indent ++ (decoratorText indent block.decorators ++ block.heading.text) := by
  simp only [header, Header.text, Heading.header, Heading.text, Heading.signature,
    List.append_assoc]

theorem unlines_headLines :
    Text.unlines block.headLines = block.header.text ++ (block.trailer ++ ['\n']) := by
  rw [headLines, Text.unlines_append, Text.unlines_lines, List.append_assoc, ← List.append_assoc,
    unlines_decorators, text_header]
  simp only [List.append_assoc]

theorem text_eq_header : block.text =
    block.header.text ++ (block.trailer ++ '\n' :: Text.unlines block.body) := by
  rw [text, Text.unlines_append, unlines_headLines]
  simp only [List.append_assoc, List.singleton_append]

end Block

section

variable (blank : ∀ character ∈ indent, isIndent character) (block : Block indent) (rest : Text)

include blank

/-- The header of a block is read where the block starts, and it is in its form. -/
theorem Block.takeHeader?_text :
    takeHeader? block.heading.kind (block.header.text ++ rest) = some (block.header, rest) := by
  rw [block.text_header, List.append_assoc, List.append_assoc]
  exact takeHeader?_read blank block.decorators block.heading rest

theorem headersFrom_block :
    headersFrom block.heading.kind offset true 0 (block.text ++ rest) =
      ⟨offset, block.header⟩ ::
        headersFrom block.heading.kind (offset + block.text.length) true 0 rest := by
  have formed := (takeHeader?_append (block.takeHeader?_text blank [])).2
  have length : block.text.length = block.header.length +
      (block.trailer.length + 1 + (Text.unlines block.body).length) := by
    rw [block.text_eq_header, List.length_append, List.length_append, List.length_cons,
      Header.length]
    omega
  rw [length, block.text_eq_header, List.append_assoc, List.append_assoc, List.cons_append,
    headersFrom_header formed (block.takeHeader?_text blank _),
    headersFrom_inLine block.trailer_line, headersFrom_lines block.body_line block.body_plain]
  simp only [Nat.add_assoc]

/-- Decorator lines start no header of a kind other than that of what they decorate. -/
theorem headersFrom_decorators {heading : Heading} (other : kind ≠ heading.kind)
    (decorators : List Decorator) :
    headersFrom kind offset true 0
        (Text.unlines (decorators.map (indent ++ ·.line)) ++ (indent ++ (heading.text ++ rest))) =
      headersFrom kind (offset + (Text.unlines (decorators.map (indent ++ ·.line))).length) true 0
        (indent ++ (heading.text ++ rest)) := by
  induction decorators generalizing offset with
  | nil => rfl
  | cons decorator others ih =>
      have inLine : '\n' ∉ indent ++ decorator.line := by
        rw [List.mem_append, not_or]
        exact ⟨newline_not_mem_of_indent blank, decorator.newline_not_mem_line⟩
      have unread := takeHeader?_eq_none_of_kind blank (decorator :: others) heading rest other
      rw [← List.append_assoc, ← unlines_decorators, List.append_assoc, List.map_cons,
        Text.unlines_cons, List.append_assoc, List.cons_append] at unread
      rw [List.map_cons, Text.unlines_cons, List.append_assoc, List.cons_append,
        headersFrom_plain inLine unread, ih]
      simp only [List.length_append, List.length_cons, Nat.add_assoc, Nat.add_comm 1]

theorem headersFrom_block_of_ne (other : kind ≠ block.heading.kind) :
    headersFrom kind offset true 0 (block.text ++ rest) =
      headersFrom kind (offset + block.text.length) true 0 rest := by
  obtain ⟨first, later, equal⟩ := List.exists_cons_of_ne_nil
    (Text.lines_ne_nil (indent ++ (block.heading.text ++ block.trailer)))
  have inLine : '\n' ∉ first :=
    Text.not_mem_of_mem_lines (equal ▸ List.mem_cons_self)
  have inLines : ∀ line ∈ later, '\n' ∉ line := fun line member =>
    Text.not_mem_of_mem_lines (equal ▸ List.mem_cons_of_mem first member)
  have plain := block.heading_plain
  rw [equal, List.tail_cons] at plain
  have lines := Text.unlines_lines (indent ++ (block.heading.text ++ block.trailer))
  rw [equal, Text.unlines_cons] at lines
  have behind : first ++ '\n' :: (Text.unlines later ++ (Text.unlines block.body ++ rest)) =
      indent ++ (block.heading.text ++ (block.trailer ++ '\n' ::
        (Text.unlines block.body ++ rest))) := by
    rw [← List.cons_append, ← List.append_assoc, lines]
    simp only [List.append_assoc, List.singleton_append]
  have unread := takeHeader?_eq_none_of_kind blank [] block.heading
    (block.trailer ++ '\n' :: (Text.unlines block.body ++ rest)) other
  rw [decoratorText_nil, List.nil_append, ← behind] at unread
  have text : block.text ++ rest =
      Text.unlines (block.decorators.map (indent ++ ·.line)) ++ (first ++ '\n' ::
        (Text.unlines later ++ (Text.unlines block.body ++ rest))) := by
    rw [Block.text, Block.headLines, equal, Text.unlines_append, Text.unlines_append,
      Text.unlines_cons]
    simp only [List.append_assoc, List.cons_append]
  have length : block.text.length =
      (Text.unlines (block.decorators.map (indent ++ ·.line))).length + (first.length + 1 +
        (Text.unlines later).length + (Text.unlines block.body).length) := by
    have same := congrArg List.length text
    simp only [List.length_append, List.length_cons] at same
    omega
  rw [text, behind, headersFrom_decorators blank _ other, ← behind, headersFrom_plain inLine unread,
    headersFrom_lines inLines plain, headersFrom_lines block.body_line block.body_plain, length]
  simp only [Nat.add_assoc]

end

/-! ## Sources -/

/-- The headers of blocks that follow each other from an offset on. -/
def located (offset : Nat) : List (Block indent) → List LocatedHeader
  | [] => []
  | block :: others => ⟨offset, block.header⟩ :: located (offset + block.text.length) others

theorem source_cons (block : Block indent) (others : List (Block indent)) :
    source (block :: others) = block.text ++ source others :=
  List.flatMap_cons

section

variable (blank : ∀ character ∈ indent, isIndent character) (blocks : List (Block indent))

include blank

theorem headersFrom_source : headersFrom kind offset true 0 (source blocks) =
    (located offset blocks).filter (·.header.kind = kind) := by
  induction blocks generalizing offset with
  | nil => rfl
  | cons block others ih =>
      rw [source_cons, located]
      by_cases same : block.heading.kind = kind
      · have kept : decide (block.header.kind = kind) = true := decide_eq_true same
        subst same
        rw [headersFrom_block blank, ih, List.filter_cons, if_pos kept]
      · have left : ¬decide (block.header.kind = kind) = true := by rwa [decide_eq_true_eq]
        rw [headersFrom_block_of_ne blank _ _ (Ne.symm same), ih, List.filter_cons, if_neg left]

/-- A source of blocks has their headers and no others. -/
theorem allHeaders_source : (allHeaders (source blocks)).Perm (located 0 blocks) := by
  have otherKind : (located 0 blocks).filter (·.header.kind = .classHeader) =
      (located 0 blocks).filter fun found => !decide (found.header.kind = .functionHeader) := by
    refine List.filter_congr fun found _ => ?_
    cases found.header.kind <;> rfl
  rw [allHeaders, headers, headers, headersFrom_source blank, headersFrom_source blank, otherKind]
  exact List.filter_append_perm _ _

end

end Written

end Segmentation.Indentation
