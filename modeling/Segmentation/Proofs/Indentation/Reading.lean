import Segmentation.Proofs.Indentation.Header
import Segmentation.Proofs.Indentation.Written
import Segmentation.Proofs.Text.Marks
import Segmentation.Proofs.Text.Words

/-!
# Reading what is written

A line on which nothing looks declared holds no header. Each part of a written declaration is read
back as it was, whatever follows it, and a declaration is not read as one of the other kind.
-/

namespace Segmentation.Indentation

variable {text run rest : Text}

/-! ## Runs and words -/

/-- A run is read up to the first character that it does not accept. -/
theorem takeRun_read {accepts : Char → Bool} (accepted : ∀ character ∈ run, accepts character)
    (stops : ∀ character ∈ rest.head?, accepts character = false) :
    takeRun accepts (run ++ rest) = (run, rest) := by
  rw [takeRun, List.takeWhile_append_of_pos accepted, List.dropWhile_append_of_pos accepted]
  cases rest with
  | nil => rw [List.takeWhile_nil, List.append_nil, List.dropWhile_nil]
  | cons character others =>
      have stop := stops character rfl
      rw [List.takeWhile_cons_of_neg (by simp [stop]), List.append_nil,
        List.dropWhile_cons_of_neg (by simp [stop])]

theorem takeRun1?_read {accepts : Char → Bool} (notEmpty : run ≠ [])
    (accepted : ∀ character ∈ run, accepts character)
    (stops : ∀ character ∈ rest.head?, accepts character = false) :
    takeRun1? accepts (run ++ rest) = some (run, rest) := by
  rw [takeRun1?, takeRun_read accepted stops]
  split
  · next empty => exact absurd (congrArg Prod.fst empty) notEmpty
  · rfl

theorem takeWord?_read (word : String) (rest : Text) :
    takeWord? word (word.toList ++ rest) = some (word.toList, rest) := by
  have starts : Text.startsWith (word.toList ++ rest) word = true :=
    List.isPrefixOf_iff_prefix.2 (List.prefix_append _ _)
  rw [takeWord?, if_pos starts, ← String.length_toList, List.drop_left]

theorem takeWord?_eq_none {word : String} (other : text.startsWith word = false) :
    takeWord? word text = none := by
  rw [takeWord?, if_neg (by rw [other]; exact Bool.false_ne_true)]

/-! ## Lines without a declaration -/

theorem takeDecorator?_eq_none (other : text.startsWith "@" = false) :
    takeDecorator? text = none := by
  rw [takeDecorator?, takeWord?_eq_none other]
  rfl

theorem takeDecorators_eq_nil (other : text.startsWith "@" = false) (budget : Nat) :
    takeDecorators budget text = ([], text) := by
  cases budget with
  | zero => rfl
  | succ budget => rw [takeDecorators, takeDecorator?_eq_none other]

/-- The words with which a header of a kind may go on behind its decorators. -/
def openingWords : HeaderKind → List String
  | .functionHeader => ["async", "def"]
  | .classHeader => ["class"]

theorem mem_of_mem_openingWords {kind : HeaderKind} {word : String}
    (listed : word ∈ openingWords kind) : word ∈ ["@", "def", "async", "class"] := by
  cases kind <;> simp only [openingWords, List.mem_cons, List.not_mem_nil, or_false] at listed
  · rcases listed with rfl | rfl <;> simp
  · rw [listed]
    simp

/-- Without one of the words of a kind behind the decorators there is no header of the kind. -/
theorem takeHeader?_eq_none {kind : HeaderKind} {lead decorators behind : Text}
    (leadRead : takeRun isIndent text = (lead, behind))
    (decoratorsRead : takeDecorators behind.length behind = (decorators, rest))
    (noWord : ∀ word ∈ openingWords kind, rest.startsWith word = false) :
    takeHeader? kind text = none := by
  cases kind with
  | functionHeader =>
      have noAsync := takeWord?_eq_none (noWord "async" (by simp [openingWords]))
      have noDef := takeWord?_eq_none (noWord "def" (by simp [openingWords]))
      simp only [takeHeader?, leadRead, decoratorsRead, takeFunction?, takeFunctionOpening?,
        noAsync, noDef, Option.bind_eq_bind, Option.bind_none]
  | classHeader =>
      have noClass := takeWord?_eq_none (noWord "class" (by simp [openingWords]))
      simp only [takeHeader?, leadRead, decoratorsRead, takeClass?, noClass, Option.bind_eq_bind,
        Option.bind_none]

theorem takeRun_line (line rest : Text) : takeRun isIndent (line ++ '\n' :: rest) =
    (line.takeWhile isIndent, line.dropWhile isIndent ++ '\n' :: rest) := by
  have split : line.takeWhile isIndent ++ line.dropWhile isIndent = line :=
    List.takeWhile_append_dropWhile
  conv => lhs; rw [← split, List.append_assoc]
  refine takeRun_read (fun character member => List.mem_takeWhile_imp member) ?_
  intro character head
  cases behind : line.dropWhile isIndent with
  | nil =>
      rw [behind] at head
      obtain rfl : '\n' = character := Option.some.inj head
      decide
  | cons first others =>
      rw [behind] at head
      obtain rfl : first = character := Option.some.inj head
      have stop := List.head_dropWhile_not isIndent (l := line) (by rw [behind]; simp)
      simpa [behind] using stop

theorem startsWith_eq_false_of_plain {line : Text} (plain : looksDeclared line = false)
    {word : String} (listed : word ∈ ["@", "def", "async", "class"]) (rest : Text) :
    Text.startsWith (line.dropWhile isIndent ++ '\n' :: rest) word = false := by
  have inWord : '\n' ∉ word.toList := by
    simp only [List.mem_cons, List.not_mem_nil, or_false] at listed
    rcases listed with rfl | rfl | rfl | rfl <;> decide
  rw [looksDeclared, Text.startsWithAny, List.any_eq_false] at plain
  rw [Text.startsWith, Text.isPrefixOf_append_newline inWord]
  exact Bool.eq_false_iff.2 (plain word listed)

/-- A line on which nothing looks declared starts no header. -/
theorem takeHeader?_eq_none_of_plain {line : Text} (kind : HeaderKind)
    (plain : looksDeclared line = false) (rest : Text) :
    takeHeader? kind (line ++ '\n' :: rest) = none := by
  have noSign := startsWith_eq_false_of_plain plain (show "@" ∈ _ by simp) rest
  exact takeHeader?_eq_none (takeRun_line line rest) (takeDecorators_eq_nil noSign _)
    fun word listed => startsWith_eq_false_of_plain plain (mem_of_mem_openingWords listed) rest

/-! ## Decorators -/

namespace Written

/-- The characters that stand right behind a name. -/
theorem isWord_of_mem_marks {character : Char}
    (mark : character ∈ [' ', '\t', '\n', '#', '(', ':']) : isWord character = false := by
  have every : ∀ mark ∈ [' ', '\t', '\n', '#', '(', ':'], isWord mark = false := by
    decide +kernel
  exact every character mark

theorem isLineBreak_of_isIndent {character : Char} (indents : isIndent character) :
    Text.isLineBreak character = false := by
  rw [isIndent, Bool.or_eq_true, beq_iff_eq, beq_iff_eq] at indents
  rcases indents with rfl | rfl <;> decide

theorem isWord_of_isLineBreak {character : Char} (breaks : Text.isLineBreak character) :
    isWord character = false :=
  isWord_of_isBlank (isBlank_of_isLineBreak breaks)

namespace Decorator

variable (decorator : Decorator)

theorem newline_not_mem_comment : '\n' ∉ decorator.comment.getD [] :=
  fun member => absurd (decorator.comment_unbroken _ member) (by decide)

theorem newline_not_mem_arguments : '\n' ∉ decorator.arguments.getD [] :=
  fun member => absurd (decorator.arguments_unbroken _ member) (by decide)

theorem isSome_takeLineRemainder? (rest : Text) :
    (takeLineRemainder? (decorator.remainder ++ '\n' :: rest)).isSome = true := by
  have commentLine := decorator.newline_not_mem_comment
  rw [remainder, List.append_assoc]
  generalize decorator.comment = comment? at commentLine ⊢
  cases comment? with
  | none =>
      rw [takeLineRemainder?, takeRun_read decorator.gap_blank (by simp [isIndent])]
      rfl
  | some comment =>
      have commentRun : takeRun (· != '\n') ('#' :: comment ++ '\n' :: rest) =
          ('#' :: comment, '\n' :: rest) := by
        refine takeRun_read ?_ (by simp)
        rw [List.forall_mem_cons]
        exact ⟨by decide, Text.bne_newline commentLine⟩
      rw [takeLineRemainder?, takeRun_read decorator.gap_blank (by simp [isIndent])]
      rw [List.cons_append] at commentRun
      simp only [List.cons_append, commentRun]
      rfl

/-- Arguments are closed at the latest by the parenthesis behind them. -/
theorem isSome_takeArguments? {arguments closing : Text} (inLine : '\n' ∉ arguments)
    (closes : (takeLineRemainder? closing).isSome = true) :
    (takeArguments? (arguments ++ ')' :: closing)).isSome = true := by
  induction arguments with
  | nil =>
      obtain ⟨⟨read, after⟩, found⟩ := Option.isSome_iff_exists.1 closes
      simp [takeArguments?, found]
  | cons character others ih =>
      rw [List.mem_cons, not_or] at inLine
      have later := ih inLine.2
      rw [List.cons_append, takeArguments?, if_neg (by simpa using Ne.symm inLine.1)]
      split
      · rfl
      · rwa [Option.isSome_map]

theorem unbroken_remainder : ∀ character ∈ decorator.remainder,
    Text.isLineBreak character = false := by
  have comment := decorator.comment_unbroken
  intro character member
  rw [remainder, List.mem_append] at member
  rcases member with inGap | inComment
  · exact isLineBreak_of_isIndent (decorator.gap_blank character inGap)
  · generalize decorator.comment = comment? at comment inComment
    cases comment? with
    | none => exact absurd inComment List.not_mem_nil
    | some comment' =>
        rcases List.mem_cons.1 inComment with rfl | inside
        · decide
        · exact comment character inside

theorem unbroken_line : ∀ character ∈ decorator.line, Text.isLineBreak character = false := by
  have arguments := decorator.arguments_unbroken
  intro character member
  rw [line, List.mem_cons, List.mem_append, List.mem_append] at member
  rcases member with rfl | inName | inArguments | inRemainder
  · decide
  · rw [← Bool.not_eq_true]
    intro breaks
    have dotted := decorator.name_dotted character inName
    rw [isWord_of_isLineBreak breaks, Bool.false_or, beq_iff_eq] at dotted
    rw [dotted] at breaks
    exact absurd breaks (by decide)
  · generalize decorator.arguments = arguments? at arguments inArguments
    cases arguments? with
    | none => exact absurd inArguments List.not_mem_nil
    | some arguments' =>
        simp only [parenthesised, List.mem_cons, List.mem_append, List.not_mem_nil,
          or_false] at inArguments
        rcases inArguments with rfl | inside | rfl
        · decide
        · exact arguments character inside
        · decide
  · exact decorator.unbroken_remainder character inRemainder

theorem newline_not_mem_line : '\n' ∉ decorator.line :=
  fun member => absurd (decorator.unbroken_line _ member) (by decide)

/-- What follows the list of a decorator goes on no name. -/
theorem head?_remainder (rest : Text) :
    ∀ character ∈ (decorator.remainder ++ '\n' :: rest).head?,
      (isWord character || character == '.') = false := by
  intro character head
  have mark : character ∈ [' ', '\t', '\n', '#', '(', ':'] ∧ character ≠ '.' := by
    have blank := decorator.gap_blank
    rw [remainder, List.append_assoc] at head
    generalize decorator.gap = gap at blank head
    cases gap with
    | nil =>
        generalize decorator.comment = comment? at head
        cases comment? with
        | none =>
            obtain rfl := Option.some.inj head
            decide
        | some comment =>
            obtain rfl := Option.some.inj head
            decide
    | cons first others =>
        obtain rfl := Option.some.inj head
        have indents := blank first List.mem_cons_self
        rw [isIndent, Bool.or_eq_true, beq_iff_eq, beq_iff_eq] at indents
        rcases indents with rfl | rfl <;> decide
  rw [isWord_of_mem_marks mark.1, Bool.false_or, beq_eq_false_iff_ne]
  exact mark.2

theorem isSome_takeDecorator? (rest : Text) :
    (takeDecorator? (decorator.line ++ '\n' :: rest)).isSome = true := by
  have whole : decorator.line ++ '\n' :: rest = "@".toList ++ (decorator.name ++
      (parenthesised decorator.arguments ++ (decorator.remainder ++ '\n' :: rest))) := by
    simp [line]
  have remainder := decorator.isSome_takeLineRemainder? rest
  have head := decorator.head?_remainder rest
  have inLine := decorator.newline_not_mem_arguments
  rw [whole]
  generalize decorator.remainder ++ '\n' :: rest = behind at remainder head ⊢
  generalize decorator.arguments = arguments? at inLine ⊢
  cases arguments? with
  | none =>
      have name := takeRun1?_read decorator.name_ne_nil decorator.name_dotted head
      simp only [takeDecorator?, takeWord?_read, parenthesised, List.nil_append, name,
        Option.bind_eq_bind, Option.bind_some]
      split
      · exact absurd remainder (by simp [takeLineRemainder?, takeRun, isIndent])
      · obtain ⟨⟨read, after⟩, found⟩ := Option.isSome_iff_exists.1 remainder
        rw [found]
        rfl
  | some arguments =>
      have list : ∀ character ∈ ('(' :: (arguments ++ ')' :: behind)).head?,
          (isWord character || character == '.') = false := by
        intro character head
        obtain rfl := Option.some.inj head
        rw [isWord_of_mem_marks (by simp)]
        rfl
      have name := takeRun1?_read decorator.name_ne_nil decorator.name_dotted list
      have inList : '\n' ∉ arguments := inLine
      obtain ⟨⟨read, after⟩, found⟩ :=
        Option.isSome_iff_exists.1 (isSome_takeArguments? inList remainder)
      simp only [takeDecorator?, takeWord?_read, parenthesised, List.cons_append,
        List.append_assoc, List.nil_append, name, Option.bind_eq_bind, Option.bind_some, found]
      rfl

theorem takeDecorator?_read (rest : Text) :
    takeDecorator? (decorator.line ++ '\n' :: rest) = some (decorator.line ++ ['\n'], rest) := by
  obtain ⟨⟨read, after⟩, found⟩ := Option.isSome_iff_exists.1 (decorator.isSome_takeDecorator? rest)
  obtain ⟨line, rfl, inLine⟩ := takeDecorator?_isLine found
  have whole := takeDecorator?_append found
  rw [List.append_assoc, List.singleton_append] at whole
  obtain ⟨rfl, rfl⟩ := Text.append_newline_inj inLine decorator.newline_not_mem_line whole
  exact found

end Decorator

/-- Decorator lines behind the indentation of the first one, each with that of the line after it. -/
def decoratorText (indent : Text) (decorators : List Decorator) : Text :=
  decorators.flatMap fun decorator => decorator.line ++ '\n' :: indent

theorem decoratorText_nil (indent : Text) : decoratorText indent [] = [] := rfl

theorem decoratorText_cons (indent : Text) (decorator : Decorator) (others : List Decorator) :
    decoratorText indent (decorator :: others) =
      decorator.line ++ '\n' :: (indent ++ decoratorText indent others) := by
  rw [decoratorText, List.flatMap_cons, ← decoratorText, List.append_assoc, List.cons_append]

theorem takeDecorators_read {indent : Text} (blank : ∀ character ∈ indent, isIndent character)
    (noSign : rest.startsWith "@" = false)
    (filled : ∀ character ∈ rest.head?, isIndent character = false) {budget : Nat}
    (decorators : List Decorator) (enough : decorators.length ≤ budget) :
    takeDecorators budget (decoratorText indent decorators ++ rest) =
      (decoratorText indent decorators, rest) := by
  induction decorators generalizing budget with
  | nil => exact takeDecorators_eq_nil noSign budget
  | cons decorator others ih =>
      cases budget with
      | zero => exact absurd enough (by simp)
      | succ budget =>
          have front : decoratorText indent (decorator :: others) ++ rest =
              decorator.line ++ '\n' :: (indent ++ (decoratorText indent others ++ rest)) := by
            rw [decoratorText_cons, List.append_assoc, List.cons_append, List.append_assoc]
          have head : ∀ character ∈ (decoratorText indent others ++ rest).head?,
              isIndent character = false := by
            cases others with
            | nil => exact filled
            | cons next later =>
                intro character first
                obtain rfl := Option.some.inj first
                decide
          rw [front, takeDecorators, decorator.takeDecorator?_read]
          simp only [takeRun_read blank head, ih (Nat.le_of_succ_le_succ enough),
            decoratorText_cons, List.append_assoc, List.cons_append, List.nil_append]

end Written

/-! ## Headings -/

section

variable {limit depth : Nat} {character : Char}

/-- What follows a character is balanced for the depth behind that character. -/
theorem Balanced.tail {behind : Nat} (balanced : Balanced limit depth (character :: text))
    (moved : behind + [character].count ')' = depth + [character].count '(') :
    Balanced limit behind text := by
  obtain ⟨closed, opened, shallow⟩ := balanced
  have count (sign : Char) (others : Text) :
      (character :: others).count sign = [character].count sign + others.count sign := by
    rw [← List.singleton_append, List.count_append]
  rw [count '(' text, count ')' text] at closed
  refine ⟨by omega, fun position inside => ?_, fun position inside => ?_⟩
  · have later := opened (position + 1) (Nat.succ_le_succ inside)
    rw [List.take_succ_cons, count '(' (text.take position), count ')' (text.take position)]
      at later
    omega
  · have later := shallow (position + 1) (Nat.succ_le_succ inside)
    rw [List.take_succ_cons, count '(' (text.take position), count ')' (text.take position)]
      at later
    omega

theorem Balanced.of_close (balanced : Balanced limit depth (')' :: text)) :
    ∃ inner, depth = inner + 1 ∧ Balanced limit inner text := by
  have opened : 0 < depth := balanced.opened 1 (Nat.le_add_left 1 _)
  obtain ⟨inner, rfl⟩ := Nat.exists_eq_add_one.2 opened
  exact ⟨inner, rfl, balanced.tail rfl⟩

/-- A parenthesis opens one level more, which the limit must allow. -/
theorem Balanced.of_open (balanced : Balanced limit depth ('(' :: text)) :
    depth < limit ∧ Balanced limit (depth + 1) text := by
  have allowed : depth + 1 ≤ 0 + limit := balanced.shallow 1 (Nat.le_add_left 1 _)
  exact ⟨by omega, balanced.tail rfl⟩

theorem Balanced.of_other (notOpen : character ≠ '(') (notClose : character ≠ ')')
    (balanced : Balanced limit depth (character :: text)) : Balanced limit depth text := by
  refine balanced.tail ?_
  rw [List.count_cons_of_ne notOpen, List.count_cons_of_ne notClose, List.count_nil,
    List.count_nil]

end

namespace Written

/-- Balanced parameters are read up to the parenthesis behind them. -/
theorem takeParameters?_read {parameters : Text} {depth : Nat}
    (balanced : Balanced parameterNesting depth parameters) (rest : Text) :
    takeParameters? depth (parameters ++ ')' :: rest) = some (parameters, ')' :: rest) := by
  induction parameters generalizing depth with
  | nil =>
      obtain rfl : depth = 0 := balanced.closed
      rfl
  | cons character others ih =>
      rw [List.cons_append]
      unfold takeParameters?
      split
      · next isClose =>
          obtain rfl := eq_of_beq isClose
          obtain ⟨inner, rfl, inside⟩ := balanced.of_close
          simp only [ih inside, Option.map_some]
      · next notClose =>
          split
          · next isOpen =>
              obtain rfl := eq_of_beq isOpen
              obtain ⟨allowed, inside⟩ := balanced.of_open
              rw [if_pos allowed, ih inside]
              rfl
          · next notOpen =>
              rw [ih (balanced.of_other (by simpa using notOpen) (by simpa using notClose))]
              rfl

section

variable (filled : ∀ character ∈ rest.head?, isIndent character = false)

include filled

theorem takeRun_nil : takeRun isIndent rest = ([], rest) :=
  takeRun_read (List.forall_mem_nil _) filled

theorem takeRun_space : takeRun isIndent (' ' :: rest) = ([' '], rest) := by
  have blank : ∀ character ∈ [' '], isIndent character := by decide
  exact takeRun_read blank filled

theorem takeRun1?_space : takeRun1? isIndent (' ' :: rest) = some ([' '], rest) := by
  rw [takeRun1?, takeRun_space filled]

theorem takeFunctionOpening?_read (isAsync : Bool) :
    takeFunctionOpening? ((if isAsync then "async def " else "def ").toList ++ rest) =
      some (((if isAsync then "async def " else "def ").toList, isAsync), rest) := by
  have gap := takeRun1?_space filled
  have word := takeWord?_read "def" (' ' :: rest)
  cases isAsync with
  | false =>
      have notAsync : takeWord? "async" ("def".toList ++ ' ' :: rest) = none :=
        takeWord?_eq_none rfl
      rw [if_neg Bool.false_ne_true,
        show "def ".toList ++ rest = "def".toList ++ ' ' :: rest from rfl]
      simp only [takeFunctionOpening?, notAsync, word, gap, Option.bind_eq_bind, Option.bind_some]
      rfl
  | true =>
      have async := takeWord?_read "async" (' ' :: ("def".toList ++ ' ' :: rest))
      have asyncGap : takeRun1? isIndent (' ' :: ("def".toList ++ ' ' :: rest)) =
          some ([' '], "def".toList ++ ' ' :: rest) := by
        refine takeRun1?_space fun character head => ?_
        obtain rfl : 'd' = character := Option.some.inj head
        decide
      rw [if_pos rfl, show "async def ".toList ++ rest =
        "async".toList ++ ' ' :: ("def".toList ++ ' ' :: rest) from rfl]
      simp only [takeFunctionOpening?, async, asyncGap, word, gap, Option.bind_eq_bind,
        Option.bind_some]
      rfl

end

theorem takeResult?_read (heading : FunctionHeading) (rest : Text) :
    takeResult? ((Heading.function heading).result ++ ':' :: rest) =
      some ((Heading.function heading).result ++ [':'], rest) := by
  have colon : takeWord? ":" (':' :: rest) = some (":".toList, rest) := takeWord?_read ":" rest
  have line := heading.result_line
  rw [Heading.result]
  generalize heading.result = result? at line
  cases result? with
  | none =>
      have gap : takeRun isIndent (':' :: rest) = ([], ':' :: rest) :=
        takeRun_nil (by simp [isIndent])
      have noArrow : takeWord? "->" (':' :: rest) = none := takeWord?_eq_none rfl
      simp only [takeResult?, List.nil_append, gap, noArrow, Option.bind_eq_bind, Option.bind_some,
        colon]
      rfl
  | some result =>
      have gap : takeRun isIndent (' ' :: ("->".toList ++ (' ' :: result ++ ':' :: rest))) =
          ([' '], "->".toList ++ (' ' :: result ++ ':' :: rest)) := by
        refine takeRun_space fun character head => ?_
        obtain rfl : '-' = character := Option.some.inj head
        decide
      have arrow := takeWord?_read "->" (' ' :: result ++ ':' :: rest)
      have type : takeRun1? (fun character => character != ':' && character != '\n')
          (' ' :: result ++ ':' :: rest) = some (' ' :: result, ':' :: rest) := by
        refine takeRun1?_read (List.cons_ne_nil _ _) ?_ (by simp)
        rw [List.forall_mem_cons]
        refine ⟨by decide, fun character member => ?_⟩
        simpa using line character member
      rw [show " -> ".toList ++ result ++ ':' :: rest =
        ' ' :: ("->".toList ++ (' ' :: result ++ ':' :: rest)) by simp]
      simp only [takeResult?, gap, arrow, type, Option.bind_eq_bind, Option.bind_some,
        Option.map_some, colon]
      simp

/-- What is read for a heading. -/
def Heading.header (heading : Heading) (lead decorators : Text) : Header where
  kind := heading.kind
  lead
  decorators
  opening := heading.words.toList
  name := heading.name
  tail := parenthesised heading.list ++ (heading.result ++ [':'])
  isAsync := heading.isAsync
  parameters := heading.list

theorem isWord_head? {character : Char} (mark : character ∈ [' ', '\t', '\n', '#', '(', ':'])
    (others : Text) : ∀ first ∈ (character :: others).head?, isWord first = false := by
  intro first head
  obtain rfl := Option.some.inj head
  exact isWord_of_mem_marks mark

theorem isIndent_head? {name : Text} (notEmpty : name ≠ [])
    (word : ∀ character ∈ name, isWord character) (others : Text) :
    ∀ first ∈ (name ++ others).head?, isIndent first = false := by
  obtain ⟨character, later, rfl⟩ := List.exists_cons_of_ne_nil notEmpty
  intro first head
  obtain rfl := Option.some.inj head
  have accepted := word character List.mem_cons_self
  rw [← Bool.not_eq_true]
  intro indents
  rw [isIndent, Bool.or_eq_true, beq_iff_eq, beq_iff_eq] at indents
  rw [isWord_of_mem_marks (by rcases indents with rfl | rfl <;> simp)] at accepted
  exact absurd accepted Bool.false_ne_true

theorem takeFunction?_read (heading : FunctionHeading) (rest : Text) :
    takeFunction? ((Heading.function heading).text ++ rest) =
      some ((Heading.function heading).header [] [], rest) := by
  have result := takeResult?_read heading rest
  have whole : (Heading.function heading).text ++ rest =
      (Heading.function heading).words.toList ++ (heading.name ++ '(' :: (heading.parameters ++
        ')' :: ((Heading.function heading).result ++ ':' :: rest))) := by
    simp [Heading.text, Heading.signature, Heading.name, Heading.list, parenthesised]
  rw [whole]
  generalize (Heading.function heading).result ++ ':' :: rest = behind at result ⊢
  have parameters : takeParameters? 0 (heading.parameters ++ ')' :: behind) =
      some (heading.parameters, ')' :: behind) :=
    takeParameters?_read heading.parameters_balanced behind
  have right : takeWord? ")" (')' :: behind) = some ([')'], behind) := takeWord?_read ")" behind
  generalize heading.parameters ++ ')' :: behind = list at parameters ⊢
  have left : takeWord? "(" ('(' :: list) = some (['('], list) := takeWord?_read "(" list
  have gap : takeRun isIndent ('(' :: list) = ([], '(' :: list) := takeRun_nil (by simp [isIndent])
  have name : takeRun1? isWord (heading.name ++ '(' :: list) = some (heading.name, '(' :: list) :=
    takeRun1?_read heading.name_ne_nil heading.name_word (isWord_head? (by simp) list)
  have opening : takeFunctionOpening? ((Heading.function heading).words.toList ++
      (heading.name ++ '(' :: list)) =
        some (((Heading.function heading).words.toList, heading.isAsync),
          heading.name ++ '(' :: list) :=
    takeFunctionOpening?_read
      (isIndent_head? heading.name_ne_nil heading.name_word ('(' :: list)) heading.isAsync
  simp only [takeFunction?, opening, name, gap, left, parameters, right, result,
    Option.bind_eq_bind, Option.bind_some]
  rw [Heading.header, Heading.list, parenthesised]
  simp [Heading.kind, Heading.name, Heading.isAsync]

theorem takeBases?_read {bases : Text} (flat : ')' ∉ bases) (rest : Text) :
    takeBases? ('(' :: (bases ++ ')' :: rest)) = some ("(".toList, bases, rest) := by
  have left : takeWord? "(" ('(' :: (bases ++ ')' :: rest)) =
      some ("(".toList, bases ++ ')' :: rest) := takeWord?_read "(" _
  have right : takeWord? ")" (')' :: rest) = some (")".toList, rest) := takeWord?_read ")" _
  have gap : takeRun isIndent ('(' :: (bases ++ ')' :: rest)) =
      ([], '(' :: (bases ++ ')' :: rest)) := takeRun_nil (by simp [isIndent])
  have inner : takeRun (· != ')') (bases ++ ')' :: rest) = (bases, ')' :: rest) := by
    refine takeRun_read (fun character member => ?_) (by simp)
    simp only [bne_iff_ne, ne_eq]
    rintro rfl
    exact flat member
  simp only [takeBases?, gap, left, inner, right, Option.bind_eq_bind, Option.bind_some]
  rfl

theorem takeBases?_eq_none (rest : Text) : takeBases? (':' :: rest) = none := by
  have gap : takeRun isIndent (':' :: rest) = ([], ':' :: rest) :=
    takeRun_nil (by simp [isIndent])
  have noList : takeWord? "(" (':' :: rest) = none := takeWord?_eq_none rfl
  simp only [takeBases?, gap, noList, Option.bind_eq_bind, Option.bind_none]

theorem takeClass?_read (heading : ClassHeading) (rest : Text) :
    takeClass? ((Heading.class_ heading).text ++ rest) =
      some ((Heading.class_ heading).header [] [], rest) := by
  have whole : (Heading.class_ heading).text ++ rest = "class".toList ++ ' ' :: (heading.name ++
      (parenthesised heading.bases ++ ':' :: rest)) := by
    simp [Heading.text, Heading.signature, Heading.words, Heading.name, Heading.list,
      Heading.result]
  have colon : takeWord? ":" (':' :: rest) = some (":".toList, rest) := takeWord?_read ":" rest
  have colonGap : takeRun isIndent (':' :: rest) = ([], ':' :: rest) :=
    takeRun_nil (by simp [isIndent])
  have name {behind : Text} (ends : ∀ first ∈ behind.head?, isWord first = false) :
      takeRun1? isWord (heading.name ++ behind) = some (heading.name, behind) :=
    takeRun1?_read heading.name_ne_nil heading.name_word ends
  have gap (behind : Text) : takeRun1? isIndent (' ' :: (heading.name ++ behind)) =
      some ([' '], heading.name ++ behind) :=
    takeRun1?_space (isIndent_head? heading.name_ne_nil heading.name_word behind)
  have flat := heading.bases_flat
  rw [whole, show (Heading.class_ heading).header [] [] = {
    kind := .classHeader, lead := [], decorators := [], opening := "class ".toList
    name := heading.name, tail := parenthesised heading.bases ++ [':'], isAsync := false
    parameters := heading.bases : Header } from rfl]
  generalize heading.bases = bases? at flat ⊢
  cases bases? with
  | none =>
      have named : takeRun1? isWord (heading.name ++ ':' :: rest) =
          some (heading.name, ':' :: rest) := name (isWord_head? (by simp) rest)
      rw [parenthesised, List.nil_append]
      simp only [takeClass?, takeWord?_read, gap, named, takeBases?_eq_none, colonGap, colon,
        Option.bind_eq_bind, Option.bind_some]
      rfl
  | some bases =>
      have list : takeBases? ('(' :: (bases ++ ')' :: ':' :: rest)) =
          some ("(".toList, bases, ':' :: rest) := takeBases?_read flat (':' :: rest)
      have named : takeRun1? isWord (heading.name ++ '(' :: (bases ++ ')' :: ':' :: rest)) =
          some (heading.name, '(' :: (bases ++ ')' :: ':' :: rest)) :=
        name (isWord_head? (by simp) _)
      rw [parenthesised, List.cons_append, List.append_assoc, List.singleton_append]
      simp only [takeClass?, takeWord?_read, gap, named, list, colonGap, colon,
        Option.bind_eq_bind, Option.bind_some]
      simp

/-! ## Headers -/

theorem Heading.head?_text (heading : Heading) (rest : Text) :
    ∀ character ∈ (heading.text ++ rest).head?, isIndent character = false ∧ character ≠ '@' := by
  intro character head
  cases heading with
  | function heading =>
      simp only [text, signature, words] at head
      cases isAsync : heading.isAsync with
      | false =>
          rw [isAsync] at head
          obtain rfl : 'd' = character := Option.some.inj head
          decide
      | true =>
          rw [isAsync] at head
          obtain rfl : 'a' = character := Option.some.inj head
          decide
  | class_ heading =>
      simp only [text, signature, words] at head
      obtain rfl : 'c' = character := Option.some.inj head
      decide

theorem startsWith_sign_eq_false (other : ∀ character ∈ text.head?, character ≠ '@') :
    text.startsWith "@" = false := by
  cases text with
  | nil => rfl
  | cons character others =>
      simpa [Text.startsWith, List.isPrefixOf] using Ne.symm (other character rfl)

theorem length_le_decoratorText (indent : Text) (decorators : List Decorator) :
    decorators.length ≤ (decoratorText indent decorators).length := by
  induction decorators with
  | nil => exact Nat.le_refl 0
  | cons decorator others ih =>
      rw [decoratorText_cons, List.length_append, List.length_cons, List.length_cons,
        List.length_append]
      omega

section

variable {indent : Text} (blank : ∀ character ∈ indent, isIndent character)
  (decorators : List Decorator) (heading : Heading) (rest : Text)

include blank

theorem takeRun_declaration :
    takeRun isIndent (indent ++ (decoratorText indent decorators ++ (heading.text ++ rest))) =
      (indent, decoratorText indent decorators ++ (heading.text ++ rest)) := by
  refine takeRun_read blank ?_
  cases decorators with
  | nil => exact fun character head => (heading.head?_text rest character head).1
  | cons decorator others =>
      intro character head
      obtain rfl : '@' = character := Option.some.inj head
      decide

theorem takeDecorators_declaration :
    takeDecorators (decoratorText indent decorators ++ (heading.text ++ rest)).length
      (decoratorText indent decorators ++ (heading.text ++ rest)) =
        (decoratorText indent decorators, heading.text ++ rest) := by
  have head := heading.head?_text rest
  refine takeDecorators_read blank
    (startsWith_sign_eq_false fun character first => (head character first).2)
    (fun character first => (head character first).1) decorators ?_
  rw [List.length_append]
  exact Nat.le_trans (length_le_decoratorText indent decorators) (Nat.le_add_right _ _)

/-- A declaration is read up to its colon. -/
theorem takeHeader?_read :
    takeHeader? heading.kind
        (indent ++ (decoratorText indent decorators ++ (heading.text ++ rest))) =
      some (heading.header indent (decoratorText indent decorators), rest) := by
  have lead := takeRun_declaration blank decorators heading rest
  have decorated := takeDecorators_declaration blank decorators heading rest
  cases heading with
  | function heading =>
      simp only [takeHeader?, Heading.kind, lead, decorated, takeFunction?_read,
        Option.bind_eq_bind, Option.bind_some]
      rfl
  | class_ heading =>
      simp only [takeHeader?, Heading.kind, lead, decorated, takeClass?_read,
        Option.bind_eq_bind, Option.bind_some]
      rfl

theorem takeHeader?_eq_none_of_kind {kind : HeaderKind} (other : kind ≠ heading.kind) :
    takeHeader? kind (indent ++ (decoratorText indent decorators ++ (heading.text ++ rest))) =
      none := by
  refine takeHeader?_eq_none (takeRun_declaration blank decorators heading rest)
    (takeDecorators_declaration blank decorators heading rest) fun word listed => ?_
  cases heading with
  | function heading =>
      cases kind with
      | functionHeader => exact absurd rfl other
      | classHeader =>
          obtain rfl := List.mem_singleton.1 listed
          simp only [Heading.text, Heading.signature, Heading.words]
          cases heading.isAsync <;> rfl
  | class_ heading =>
      cases kind with
      | functionHeader =>
          simp only [Heading.text, Heading.signature, Heading.words]
          simp only [openingWords, List.mem_cons, List.not_mem_nil, or_false] at listed
          rcases listed with rfl | rfl <;> rfl
      | classHeader => exact absurd rfl other

end

end Written

end Segmentation.Indentation
