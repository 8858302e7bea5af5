import Segmentation.Proofs.Indentation.Shape
import Segmentation.Proofs.Text.Pieces

/-!
# Decorators line by line

A header takes its decorators by lines that end with a newline, and whatever else is on such a line
belongs to the decorator. The entries of a declaration are cut at every kind of line break. So each
decorator line has its own entry exactly when no other break stands within it.
-/

namespace Segmentation.Indentation

variable {source : Text} {located : LocatedHeader}

/-! ## Decorator lines -/

namespace Header

/-- The decorator lines of a header, without their newlines. -/
def decoratorLines (header : Header) : List Text :=
  header.decorators.lines.dropLast

/-- What a list of decorators should be: it has one entry for each decorator line, which is the line
without the blanks around it. -/
structure ListedBy (header : Header) (decorators : List Text) : Prop where
  length_eq : decorators.length = header.decorators.newlines
  entries_eq : decorators = header.decoratorLines.map Text.trim
  sign : ∀ entry ∈ decorators, entry.startsWith "@" = true

instance (header : Header) (decorators : List Text) : Decidable (header.ListedBy decorators) :=
  decidable_of_iff (decorators.length = header.decorators.newlines ∧
    decorators = header.decoratorLines.map Text.trim ∧
    ∀ entry ∈ decorators, entry.startsWith "@" = true)
    ⟨fun ⟨length_eq, entries_eq, sign⟩ => ⟨length_eq, entries_eq, sign⟩,
      fun ⟨length_eq, entries_eq, sign⟩ => ⟨length_eq, entries_eq, sign⟩⟩

end Header

/-- A line that holds a decorator behind its indentation. -/
def IsDecoratorLine (line : Text) : Prop :=
  '\n' ∉ line ∧ ∃ front others, line = front ++ '@' :: others ∧
    ∀ character ∈ front, isIndent character

theorem IsDecoratorLine.exists_trim_eq {line : Text} (decorates : IsDecoratorLine line) :
    ∃ others, line.trim = '@' :: others := by
  obtain ⟨-, front, others, rfl, blank⟩ := decorates
  rw [Text.trim_append_left fun character member => isBlank_of_isIndent (blank character member),
    Text.trim, Text.trimStart, List.dropWhile_cons_of_neg (by decide)]
  exact ⟨_, Text.trimEnd_append (by decide) [] others⟩

/-- Decorators are read line by line; the indentation behind each line is that of the next one. -/
theorem exists_takeDecorators_eq (budget : Nat) {lead : Text}
    (blank : ∀ character ∈ lead, isIndent character) (text : Text) :
    ∃ lines gap, lead ++ (takeDecorators budget text).1 = Text.unlines lines ++ gap ∧
      (∀ line ∈ lines, IsDecoratorLine line) ∧ ∀ character ∈ gap, isIndent character := by
  induction budget generalizing lead text with
  | zero => exact ⟨[], lead, List.append_nil lead, List.forall_mem_nil _, blank⟩
  | succ budget ih =>
      unfold takeDecorators
      split
      · exact ⟨[], lead, List.append_nil lead, List.forall_mem_nil _, blank⟩
      · next read afterLine found =>
          obtain ⟨line, ends, inLine⟩ := takeDecorator?_isLine found
          obtain ⟨others, sign⟩ := takeDecorator?_sign found
          obtain ⟨lines, gap, equal, decorate, gapBlank⟩ :=
            ih (forall_mem_takeRun isIndent afterLine) (takeRun isIndent afterLine).2
          refine ⟨(lead ++ line) :: lines, gap, ?_, List.forall_mem_cons.2 ⟨⟨?_, ?_⟩, decorate⟩,
            gapBlank⟩
          · rw [Text.unlines_cons, List.append_assoc, List.cons_append, ← equal, ends]
            simp only [List.append_assoc, List.cons_append, List.nil_append]
          · rw [List.mem_append, not_or]
            exact ⟨newline_not_mem_of_indent blank, inLine⟩
          · cases line with
            | nil => exact absurd (sign.symm.trans ends) (by simp)
            | cons first later =>
                rw [sign, List.cons_append, List.cons.injEq] at ends
                exact ⟨lead, later, by rw [← ends.1], blank⟩

/-- The decorators of a header are its decorator lines, and the indentation of the line behind. -/
theorem exists_decorators_eq (member : located ∈ allHeaders source) :
    ∃ gap, located.header.decorators = Text.unlines located.header.decoratorLines ++ gap ∧
      (∀ line ∈ located.header.decoratorLines, IsDecoratorLine line) ∧
      ∀ character ∈ gap, isIndent character := by
  obtain ⟨kind, found⟩ := exists_kind_of_mem_allHeaders member
  obtain ⟨rest, read⟩ := exists_takeHeader?_of_mem_headers found
  obtain ⟨budget, text, equal⟩ : ∃ budget text,
      located.header.decorators = (takeDecorators budget text).1 := by
    simp only [takeHeader?, bind] at read
    cases kind
    all_goals
      simp only [Option.bind_eq_some_iff] at read
      obtain ⟨_, -, made⟩ := read
      simp only [pure, Option.some.injEq, Prod.mk.injEq] at made
      exact ⟨_, _, by rw [← made.1]⟩
  obtain ⟨lines, gap, whole, decorate, blank⟩ :=
    exists_takeDecorators_eq budget (List.forall_mem_nil _) text
  rw [List.nil_append, ← equal] at whole
  have same : located.header.decoratorLines = lines := by
    rw [Header.decoratorLines, whole,
      Text.lines_unlines_append fun line inside => (decorate line inside).1,
      Text.lines_of_not_mem (newline_not_mem_of_indent blank), List.dropLast_concat]
  rw [same]
  exact ⟨gap, whole, decorate, blank⟩

/-! ## Entries of decorators -/

theorem entries_unlines (lines : List Text) {gap : Text}
    (blank : ∀ character ∈ gap, isBlank character) :
    entries (Text.unlines lines ++ gap) = lines.flatMap entries := by
  induction lines with
  | nil => exact entries_of_blank blank
  | cons line others ih =>
      rw [Text.unlines_cons, List.append_assoc, List.cons_append,
        entries_append_break (by decide), ih, List.flatMap_cons]

/-- Lines that are not blank have as many entries in all as there are lines only when none of them
holds a break. -/
theorem unbroken_of_length_flatMap_entries {lines : List Text}
    (filled : ∀ line ∈ lines, line.trim ≠ [])
    (length : (lines.flatMap entries).length ≤ lines.length) :
    ∀ line ∈ lines, ∀ character ∈ line.trim, Text.isLineBreak character = false := by
  have atLeast {lines : List Text} (filled : ∀ line ∈ lines, line.trim ≠ []) :
      lines.length ≤ (lines.flatMap entries).length := by
    induction lines with
    | nil => exact Nat.le_refl 0
    | cons line others ih =>
        rw [List.forall_mem_cons] at filled
        have hasEntry := List.length_pos_iff.2 (entries_ne_nil filled.1)
        have later := ih filled.2
        rw [List.flatMap_cons, List.length_append, List.length_cons]
        omega
  induction lines with
  | nil => exact List.forall_mem_nil _
  | cons line others ih =>
      rw [List.forall_mem_cons] at filled
      have hasEntry := List.length_pos_iff.2 (entries_ne_nil filled.1)
      have later := atLeast filled.2
      rw [List.flatMap_cons, List.length_append, List.length_cons] at length
      exact List.forall_mem_cons.2 ⟨(length_entries_eq_one_iff filled.1).1 (by omega),
        ih filled.2 (by omega)⟩

/-- The decorators of a declaration are the entries of its decorator lines. Each line has its own
entry exactly when no line break stands within one of them. -/
theorem listedBy_decorators_iff (member : located ∈ allHeaders source) :
    (chunkOf source (LineTable.ofText source) located).decorators =
        located.header.decoratorLines.flatMap entries ∧
      (located.header.ListedBy (chunkOf source (LineTable.ofText source) located).decorators ↔
        ∀ line ∈ located.header.decoratorLines, ∀ character ∈ line.trim,
          Text.isLineBreak character = false) := by
  obtain ⟨gap, whole, decorate, blank⟩ := exists_decorators_eq member
  have filled : ∀ line ∈ located.header.decoratorLines, line.trim ≠ [] := by
    intro line inside
    obtain ⟨others, starts⟩ := (decorate line inside).exists_trim_eq
    rw [starts]
    exact List.cons_ne_nil _ _
  have listed : (chunkOf source (LineTable.ofText source) located).decorators =
      located.header.decoratorLines.flatMap entries := by
    calc (chunkOf source (LineTable.ofText source) located).decorators
        = entries located.header.decorators := rfl
      _ = located.header.decoratorLines.flatMap entries := by
        rw [whole]
        exact entries_unlines _ fun character inside => isBlank_of_isIndent (blank character inside)
  have count : located.header.decoratorLines.length = located.header.decorators.newlines :=
    Text.length_dropLast_lines _
  refine ⟨listed, fun listedBy => ?_, fun unbroken => ?_⟩
  · refine unbroken_of_length_flatMap_entries filled ?_
    rw [← listed, listedBy.length_eq, count]
  · have single : located.header.decoratorLines.flatMap entries =
        located.header.decoratorLines.map Text.trim := by
      rw [List.map_eq_flatMap]
      exact List.flatMap_congr fun line inside =>
        entries_eq_singleton (filled line inside) (unbroken line inside)
    rw [listed, single]
    refine ⟨by rw [List.length_map, count], rfl, fun entry inside => ?_⟩
    obtain ⟨line, inLines, rfl⟩ := List.mem_map.1 inside
    obtain ⟨others, starts⟩ := (decorate line inLines).exists_trim_eq
    rw [starts]
    exact Text.startsWith_iff.2 ⟨others, rfl⟩

/-- A method with a decorator whose line ends with two characters, and one with a comment. -/
def decoratedText : Text :=
  "  @a.b\r\n  @c(1)  # note\n  def f(): pass".toList

def decoratedMethod : LocatedHeader where
  offset := 0
  header :=
    { kind := .functionHeader, lead := "  ".toList
      decorators := "@a.b\r\n  @c(1)  # note\n  ".toList
      opening := "def ".toList, name := "f".toList, tail := "():".toList, isAsync := false
      parameters := some [] }

theorem listedBy_decorators_iff_decoratedMethod :
    decoratedMethod.header.ListedBy
      (chunkOf decoratedText (LineTable.ofText decoratedText) decoratedMethod).decorators :=
  (listedBy_decorators_iff (by decide +kernel)).2.2 (by decide +kernel)

/-- A form feed among the arguments of a decorator cuts its line in two. -/
theorem decorators_cut_at_formFeed :
    (chunks "@d(1,\x0c2)\ndef f(): pass".toList).map (·.decorators) =
        [["@d(1,".toList, "2)".toList]] ∧
      ¬∀ located ∈ allHeaders "@d(1,\x0c2)\ndef f(): pass".toList,
        located.header.ListedBy
          (chunkOf "@d(1,\x0c2)\ndef f(): pass".toList
            (LineTable.ofText "@d(1,\x0c2)\ndef f(): pass".toList) located).decorators := by
  have found := chunks_eq (List.Perm.refl ((allHeaders
      "@d(1,\x0c2)\ndef f(): pass".toList).map (chunkOf _ _)))
    (by decide +kernel) (by decide +kernel)
  rw [found]
  decide +kernel

end Segmentation.Indentation
