import Segmentation.Text.Basic

/-!
# Declaration headers of indentation-delimited sources

A header is a line-start pattern: indentation, decorator lines, and then either

* `async` (optional) `def` NAME `(` PARAMETERS `)` `->` ANNOTATION (optional) `:`, or
* `class` NAME `(` BASES `)` (optional) `:`.

Parameters may run over several lines and may nest parentheses two levels deep; bases end at the
first closing parenthesis. At every point of the pattern the next character decides how to go on, so
each part below takes as much as it can and never gives anything back.

Every reader takes the text that is left and gives what it read with the text after it. No reader
knows where in the source it stands, so a header is read the same way wherever it occurs.
-/

namespace Segmentation.Indentation

/-! ## Parts of a header -/

/-- The longest run of characters of a class at the start of a text, and the text after it. -/
def takeRun (accepts : Char → Bool) (text : Text) : Text × Text :=
  (text.takeWhile accepts, text.dropWhile accepts)

/-- A run of at least one character of a class. -/
def takeRun1? (accepts : Char → Bool) (text : Text) : Option (Text × Text) :=
  match takeRun accepts text with
  | ([], _) => none
  | found => some found

/-- The given word at the start of a text. -/
def takeWord? (word : String) (text : Text) : Option (Text × Text) :=
  if text.startsWith word then some (word.toList, text.drop word.length) else none

/-- What may follow a decorator on its line: blanks, a comment, and the end of the line. -/
def takeLineRemainder? (text : Text) : Option (Text × Text) :=
  let (gap, rest) := takeRun isIndent text
  match rest with
  | '\n' :: after => some (gap ++ ['\n'], after)
  | '\r' :: '\n' :: after => some (gap ++ ['\r', '\n'], after)
  | '#' :: _ =>
      let (comment, after) := takeRun (· != '\n') rest
      match after with
      | '\n' :: after => some (gap ++ comment ++ ['\n'], after)
      | _ => none
  | _ => none

/-- The arguments of a decorator with the remainder of its line. The arguments close at the first
parenthesis after which the line holds only blanks and a comment. -/
def takeArguments? : Text → Option (Text × Text)
  | [] => none
  | character :: rest =>
      if character == '\n' then none
      else
        match if character == ')' then takeLineRemainder? rest else none with
        | some (remainder, after) => some (character :: remainder, after)
        | none =>
            (takeArguments? rest).map fun (read, after) => (character :: read, after)

/-- One decorator line without its indentation: an at sign, a dotted name, and arguments. -/
def takeDecorator? (text : Text) : Option (Text × Text) := do
  let (sign, rest) ← takeWord? "@" text
  let (name, rest) ← takeRun1? (fun character => isWord character || character == '.') rest
  let (remainder, rest) ←
    match rest with
    | '(' :: inner => (takeArguments? inner).map fun (read, after) => ('(' :: read, after)
    | _ => takeLineRemainder? rest
  return (sign ++ name ++ remainder, rest)

/-- Decorator lines, each followed by the indentation of the next line; at most `budget` of them. -/
def takeDecorators (budget : Nat) (text : Text) : Text × Text :=
  match budget with
  | 0 => ([], text)
  | budget + 1 =>
      match takeDecorator? text with
      | none => ([], text)
      | some (line, rest) =>
          let (gap, rest) := takeRun isIndent rest
          let (others, rest) := takeDecorators budget rest
          (line ++ gap ++ others, rest)

/-- How deep parentheses may nest inside a parameter list. -/
def parameterNesting : Nat := 2

/-- The parameters up to the parenthesis that closes the list, when `depth` inner parentheses are
open; the closing parenthesis stays in front of the remaining text. -/
def takeParameters? (depth : Nat) : Text → Option (Text × Text)
  | [] => none
  | character :: rest =>
      if character == ')' then
        match depth with
        | 0 => some ([], character :: rest)
        | depth + 1 =>
            (takeParameters? depth rest).map fun (read, after) => (character :: read, after)
      else if character == '(' then
        if depth < parameterNesting then
          (takeParameters? (depth + 1) rest).map fun (read, after) => (character :: read, after)
        else none
      else (takeParameters? depth rest).map fun (read, after) => (character :: read, after)

/-- The end of a function header: an optional result type and the colon. -/
def takeResult? (text : Text) : Option (Text × Text) := do
  let (gap, rest) := takeRun isIndent text
  let (resultType, rest) ←
    match takeWord? "->" rest with
    | none => some ([], rest)
    | some (arrow, rest) =>
        (takeRun1? (fun character => character != ':' && character != '\n') rest).map
          fun (read, after) => (arrow ++ read, after)
  let (colon, rest) ← takeWord? ":" rest
  return (gap ++ resultType ++ colon, rest)

/-- The bases of a class in their parentheses: the text in front of them, the bases, and the text
after them. -/
def takeBases? (text : Text) : Option (Text × Text × Text) := do
  let (gap, rest) := takeRun isIndent text
  let (opening, rest) ← takeWord? "(" rest
  let (bases, rest) := takeRun (· != ')') rest
  let (_, rest) ← takeWord? ")" rest
  return (gap ++ opening, bases, rest)

/-! ## Headers -/

/-- What a header declares. -/
inductive HeaderKind where
  | functionHeader
  | classHeader
  deriving DecidableEq, Repr

/-- A header as it was read, cut into the parts that matter. The parts `lead`, `decorators`,
`opening`, `name` and `tail` are consecutive, so their lengths locate everything in the source. -/
structure Header where
  kind : HeaderKind
  /-- The indentation of the first line. -/
  lead : Text
  /-- The decorator lines, with the indentation that follows each. -/
  decorators : Text
  /-- The keywords in front of the name. -/
  opening : Text
  name : Text
  /-- All after the name, up to and with the colon. -/
  tail : Text
  isAsync : Bool
  /-- The parameters of a function or the bases of a class, when there is a list of them. -/
  parameters : Option Text
  deriving DecidableEq, Repr

namespace Header

/-- The text of the whole header. -/
def text (header : Header) : Text :=
  header.lead ++ header.decorators ++ header.opening ++ header.name ++ header.tail

/-- How many characters the header takes. -/
def length (header : Header) : Nat :=
  header.text.length

/-- How many characters of the header stand before its name. -/
def nameStart (header : Header) : Nat :=
  (header.lead ++ header.decorators ++ header.opening).length

/-- The header on one line, as it stands for the declaration: without decorators, result type and
colon, and without bases when the list of them is empty. -/
def signature (header : Header) : Text :=
  match header.kind with
  | .functionHeader =>
      (if header.isAsync then "async def ".toList else "def ".toList) ++ header.name ++
        '(' :: (header.parameters.getD [] ++ [')'])
  | .classHeader =>
      "class ".toList ++ header.name ++
        match header.parameters.getD [] with
        | [] => []
        | bases => '(' :: (bases ++ [')'])

/-- One entry per decorator line, trimmed. -/
def decoratorEntries (header : Header) : List Text :=
  (Text.lineBreakPieces header.decorators).filterMap fun piece =>
    let trimmed := Text.trim piece
    if trimmed.isEmpty then none else some trimmed

end Header

/-- The keywords in front of a function's name, and whether they mark it as asynchronous. -/
def takeFunctionOpening? (text : Text) : Option ((Text × Bool) × Text) := do
  let (mark, rest) :=
    match takeWord? "async" text with
    | none => ([], text)
    | some (word, rest) =>
        match takeRun1? isIndent rest with
        | none => ([], text)
        | some (gap, rest) => (word ++ gap, rest)
  let (word, rest) ← takeWord? "def" rest
  let (gap, rest) ← takeRun1? isIndent rest
  return ((mark ++ word ++ gap, !mark.isEmpty), rest)

/-- What follows the decorators of a function: the header without `lead` and `decorators`. -/
def takeFunction? (text : Text) : Option (Header × Text) := do
  let ((opening, isAsync), rest) ← takeFunctionOpening? text
  let (name, rest) ← takeRun1? isWord rest
  let (gap, rest) := takeRun isIndent rest
  let (left, rest) ← takeWord? "(" rest
  let (parameters, rest) ← takeParameters? 0 rest
  let (right, rest) ← takeWord? ")" rest
  let (resultType, rest) ← takeResult? rest
  return ({ kind := .functionHeader, lead := [], decorators := [], opening, name
            tail := gap ++ left ++ parameters ++ right ++ resultType
            isAsync, parameters := some parameters }, rest)

/-- What follows the decorators of a class: the header without `lead` and `decorators`. -/
def takeClass? (text : Text) : Option (Header × Text) := do
  let (word, rest) ← takeWord? "class" text
  let (gap, rest) ← takeRun1? isIndent rest
  let (name, rest) ← takeRun1? isWord rest
  let (list, parameters, rest) :=
    match takeBases? rest with
    | none => ([], none, rest)
    | some (before, bases, after) => (before ++ bases ++ [')'], some bases, after)
  let (gapBefore, rest) := takeRun isIndent rest
  let (colon, rest) ← takeWord? ":" rest
  return ({ kind := .classHeader, lead := [], decorators := [], opening := word ++ gap, name
            tail := list ++ gapBefore ++ colon
            isAsync := false, parameters }, rest)

/-- The header of the given kind at the start of a line, and the text after its colon. -/
def takeHeader? (kind : HeaderKind) (text : Text) : Option (Header × Text) := do
  let (lead, rest) := takeRun isIndent text
  let (decorators, rest) := takeDecorators rest.length rest
  let (header, rest) ←
    match kind with
    | .functionHeader => takeFunction? rest
    | .classHeader => takeClass? rest
  return ({ header with lead, decorators }, rest)

/-! ## All headers of a source -/

/-- A header and the offset at which its first line starts. -/
structure LocatedHeader where
  offset : Nat
  header : Header
  deriving DecidableEq, Repr

/-- The offset of the header's name in the source. -/
def LocatedHeader.nameOffset (located : LocatedHeader) : Nat :=
  located.offset + located.header.nameStart

/-- The offset just after the header's colon in the source. -/
def LocatedHeader.stop (located : LocatedHeader) : Nat :=
  located.offset + located.header.length

/-- The headers of one kind in a text that starts at `offset`, from first to last. The first `skip`
characters belong to the header before them; a header starts only where a line starts. -/
def headersFrom (kind : HeaderKind) (offset : Nat) (atLineStart : Bool) (skip : Nat) :
    Text → List LocatedHeader
  | [] => []
  | character :: rest =>
      let nextAtLineStart := character == '\n'
      match skip with
      | skip + 1 => headersFrom kind (offset + 1) nextAtLineStart skip rest
      | 0 =>
          match if atLineStart then takeHeader? kind (character :: rest) else none with
          | some (header, _) =>
              ⟨offset, header⟩ ::
                headersFrom kind (offset + 1) nextAtLineStart (header.length - 1) rest
          | none => headersFrom kind (offset + 1) nextAtLineStart 0 rest

/-- The headers of one kind in a source. No two of them overlap. -/
def headers (kind : HeaderKind) (source : Text) : List LocatedHeader :=
  headersFrom kind 0 true 0 source

end Segmentation.Indentation
