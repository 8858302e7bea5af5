import Segmentation.Number.Digits
import Segmentation.Text.Basic

/-!
# Lexemes of scripts

The smallest pieces of a script source: names, words and signs, numbers, strings and patterns, and
the trivia between them. Every lexeme is a function that tells how many characters it takes at the
start of a text, if it stands there.
-/

namespace Segmentation.Script

/-- A lexeme at the start of a text, as the number of characters that it takes. -/
abbrev Lexeme := Text → Option Nat

/-! ## Characters -/

/-- A gap between lexemes: white space, and the invisible characters that count as such. -/
def isGap (character : Char) : Bool :=
  isUnicodeSpace character || character == '\ufeff' || character == '\u2060' ||
    character == '\u200b'

/-- The signs that no name contains. -/
def punctuation : List Char :=
  [':', ';', '\x60', '"', '\'', '@', '#', '.', ',', '|', '^', '&', '<', '=', '>', '+', '-', '*',
    '/', '\\', '%', '?', '!', '~', '(', ')', '[', ']', '\x7b', '\x7d']

/-- A character inside a name. -/
def isNamePart (character : Char) : Bool :=
  32 < character.toNat && !isGap character && !punctuation.contains character

/-- A character at the start of a name. -/
def isNameStart (character : Char) : Bool :=
  isNamePart character && !character.isDigit

/-- The end of a line inside a comment or between statements. -/
def isLineEnd (character : Char) : Bool :=
  character == '\n' || character == '\u2028' || character == '\u2029'

/-- White space that may break a line or be passed over in search of one. No-break spaces and
invisible characters are not. -/
def isBreakable (character : Char) : Bool :=
  isUnicodeSpace character &&
    !(['\u0085', '\u00a0', '\u2007', '\u202f'].contains character)

/-! ## Comments -/

/-- The number of characters up to and with the end of a block comment, if it ends. -/
def blockCommentRest : Text → Option Nat
  | [] => none
  | '*' :: '/' :: _ => some 2
  | _ :: rest => (blockCommentRest rest).map (· + 1)

/-- A comment: to the end of the line, or between marks. -/
def comment : Lexeme
  | '/' :: '/' :: rest =>
      let line := rest.takeWhile fun character => !(isLineEnd character || character == '\r')
      some (2 + line.length)
  | '/' :: '*' :: rest => (blockCommentRest rest).map (· + 2)
  | _ => none

/-! ## Names -/

/-- An escaped character of a name, after its backslash. -/
def nameEscape : Lexeme
  | 'u' :: '\x7b' :: rest =>
      let digits := (rest.takeWhile isHexDigit).length
      if digits = 0 || rest[digits]? != some '\x7d' then none else some (digits + 3)
  | 'u' :: rest => if 4 ≤ ((rest.take 4).takeWhile isHexDigit).length then some 5 else none
  | _ => none

/-- The length of the rest of a name. The first `skip` characters belong to an escape. -/
def nameRest (skip : Nat) : Text → Nat
  | [] => 0
  | character :: rest =>
      match skip with
      | skip + 1 => 1 + nameRest skip rest
      | 0 =>
          if isNamePart character then 1 + nameRest 0 rest
          else if character = '\\' then
            match nameEscape rest with
            | some count => 1 + nameRest count rest
            | none => 0
          else 0

/-- A name, whether or not it is reserved. -/
def name : Lexeme
  | character :: rest =>
      if isNameStart character || (character = '\\' && (nameEscape rest).isSome) then
        some (nameRest 0 (character :: rest))
      else none
  | [] => none

/-- The words that are no names of their own. -/
def reservedWords : List String :=
  ["break", "case", "catch", "class", "const", "continue", "debugger", "default", "delete", "do",
    "else", "export", "extends", "false", "finally", "for", "function", "if", "import", "in",
    "instanceof", "new", "null", "return", "super", "switch", "this", "throw", "true", "try",
    "typeof", "var", "void", "while", "with"]

/-- The private name of a class member. -/
def privateName : Lexeme
  | '#' :: rest => (name rest).map (· + 1)
  | _ => none

/-- The first line of a source that names its interpreter. -/
def interpreterLine : Lexeme
  | '#' :: '!' :: rest => some (2 + (rest.takeWhile (· != '\n')).length)
  | _ => none

/-! ## Numbers -/

/-- The length of an exponent, or zero when there is none. -/
def exponent : Text → Nat
  | 'e' :: rest | 'E' :: rest =>
      let signs := match rest with
        | '+' :: _ | '-' :: _ => 1
        | _ => 0
      let count := groupedDigits Char.isDigit (rest.drop signs)
      if count = 0 then 0 else 1 + signs + count
  | _ => 0

/-- The length of digits in another base after its mark, with the mark of a big integer. -/
def basedNumber (isDigit : Char → Bool) (text : Text) : Option Nat :=
  match groupedDigits isDigit text with
  | 0 => none
  | count => some (if text[count]? == some 'n' then count + 3 else count + 2)

/-- A number: in one of four bases, with underscores between digits, with a fraction and an
exponent, or with the mark of a big integer. -/
def number : Lexeme
  | '0' :: 'x' :: rest | '0' :: 'X' :: rest => (basedNumber isHexDigit rest).or (some 1)
  | '0' :: 'b' :: rest | '0' :: 'B' :: rest =>
      (basedNumber (fun character => character == '0' || character == '1') rest).or (some 1)
  | '0' :: 'o' :: rest | '0' :: 'O' :: rest =>
      (basedNumber (fun character => '0' ≤ character && character ≤ '7') rest).or (some 1)
  | '.' :: rest =>
      match groupedDigits Char.isDigit rest with
      | 0 => none
      | count => some (1 + count + exponent (rest.drop count))
  | text =>
      match groupedDigits Char.isDigit text with
      | 0 => none
      | count =>
          let second := text[1]?.getD ' '
          let whole := if text.startsWith "0" && !('1' ≤ second && second ≤ '9') then 1 else count
          let rest := text.drop whole
          let long :=
            match rest with
            | '.' :: fraction =>
                let places := groupedDigits Char.isDigit fraction
                whole + 1 + places + exponent (fraction.drop places)
            | _ => if exponent rest = 0 then 0 else whole + exponent rest
          let big := if text[count]? == some 'n' then count + 1 else count
          some (max long big)

/-! ## Strings and patterns -/

/-- The number of characters at the start of a text that belong to a class; there has to be one. -/
def span1 (accepts : Char → Bool) : Lexeme := fun text =>
  match (text.takeWhile accepts).length with
  | 0 => none
  | count => some count

/-- An escaped character of a string or a template. -/
def escape : Lexeme
  | '\\' :: 'x' :: rest => if 2 ≤ ((rest.take 2).takeWhile isHexDigit).length then some 4 else none
  | '\\' :: 'u' :: rest => (nameEscape ('u' :: rest)).map (· + 1)
  | '\\' :: character :: rest =>
      let isOctal (character : Char) := '0' ≤ character && character ≤ '7'
      if isOctal character then some (2 + ((rest.take 2).takeWhile isOctal).length)
      else if (character == '\r' || character == '?') && (rest.head?.map isLineEnd).getD false then
        some 3
      else some 2
  | _ => none

/-- Characters of a string between its escapes. -/
def stringFragment (mark : Char) : Lexeme :=
  span1 fun character => !([mark, '\\', '\r', '\n'].contains character)

/-- The length of the characters of a template up to its end, an escape or its next hole. -/
def templateLength : Text → Option Nat
  | [] => none
  | character :: rest =>
      if character = '\x00' then none
      else if character = '\x60' || character = '\\' then some 0
      else if character = '$' && rest.head? == some '\x7b' then some 0
      else (templateLength rest).map (· + 1)

/-- Characters of a template between its escapes and holes. -/
def templateFragment : Lexeme := fun text =>
  match templateLength text with
  | some 0 | none => none
  | some count => some count

/-- Where the reader of a pattern stands: outside of a class, or in one that began the given number
of characters before. -/
inductive PatternState where
  | outside
  | inClass (length : Nat)

/-- The length of the body of a pattern. A class that is not closed, and a backslash at the end of a
line, do not belong to it. -/
def patternLength (state : PatternState) (length : Nat) : Text → Nat
  | [] =>
      match state with
      | .outside => length
      | .inClass before => before
  | '\\' :: next :: rest =>
      if next = '\n' then
        match state with
        | .outside => length
        | .inClass before => before
      else patternLength state (length + 2) rest
  | character :: rest =>
      match state with
      | .outside =>
          if ['/', '\\', '\n'].contains character then length
          else if character = '[' then patternLength (.inClass length) (length + 1) rest
          else patternLength .outside (length + 1) rest
      | .inClass before =>
          if ['\\', '\n'].contains character then before
          else if character = ']' then patternLength .outside (length + 1) rest
          else patternLength (.inClass before) (length + 1) rest

/-- The body of a pattern between its slashes. -/
def patternBody : Lexeme := fun text =>
  match patternLength .outside 0 text with
  | 0 => none
  | count => some count

/-! ## Markup -/

/-- Text between the tags of markup. White space alone that begins with a newline is no text. -/
def markupText : Lexeme := fun text =>
  let stops := ['<', '>', '\x7b', '\x7d', '&', '\x00']
  let inside := text.takeWhile fun character => !stops.contains character
  if inside.isEmpty || (inside.head? == some '\n' && inside.all isBreakable) then none
  else some inside.length

/-- A character of markup that is written by its name or number. -/
def characterReference : Lexeme
  | '&' :: '#' :: rest =>
      let closes (count : Nat) (digits : Text) : Option Nat :=
        if 1 ≤ digits.length && digits.length ≤ count then some digits.length else none
      let digits := match rest with
        | 'x' :: rest | 'X' :: rest => (closes 6 (rest.takeWhile isHexDigit)).map (· + 1)
        | rest => closes 5 (rest.takeWhile Char.isDigit)
      digits.bind fun count => if rest[count]? == some ';' then some (count + 3) else none
  | '&' :: rest =>
      let letters := rest.takeWhile Char.isAlpha
      if 1 ≤ letters.length && letters.length ≤ 30 && rest[letters.length]? == some ';' then
        some (letters.length + 2)
      else none
  | _ => none

/-- The length of characters of a string in a tag, which has no escapes. An ampersand belongs to it
unless it may open a reference. -/
def markupStringLength (mark : Char) : Text → Nat
  | '&' :: next :: rest =>
      if next = '#' || next.isAlpha then 0
      else 2 + markupStringLength mark rest
  | '&' :: [] => 0
  | character :: rest => if character = mark then 0 else 1 + markupStringLength mark rest
  | [] => 0

/-- Characters of a string in a tag. -/
def markupStringFragment (mark : Char) : Lexeme := fun text =>
  match markupStringLength mark text with
  | 0 => none
  | count => some count

/-- A name in a tag that holds a dash. -/
def dashedName : Lexeme := fun text =>
  let isStart (character : Char) := character.isAlpha || character == '_' || character == '$'
  let isPart (character : Char) := isStart character || character.isDigit
  let first := (text.takeWhile isPart).length
  if !(text.head?.map isStart).getD false || text[first]? != some '-' then none
  else
    let rest := (text.drop first).takeWhile fun character => isPart character || character == '-'
    some (first + rest.length)

/-- A comment in the manner of markup, to the end of its line. -/
def markupComment : Lexeme := fun text =>
  if text.startsWith "<!--" || text.startsWith "-->" then
    some (text.takeWhile fun character => character != '\x00' && !isLineEnd character).length
  else none

/-! ## Words with white space between them -/

/-- The words `static` and `get` where a line ends after them. -/
def staticGet : Lexeme := fun text =>
  if text.startsWith "static" then
    let gap := (text.drop 6).takeWhile isBreakable
    let rest := text.drop (6 + gap.length)
    let after := (rest.drop 3).takeWhile isBreakable
    match after.reverse.dropWhile (· != '\n') with
    | [] => none
    | ending =>
        if gap.isEmpty || !Text.startsWith rest "get" then none
        else some (9 + gap.length + ending.length)
  else none

end Segmentation.Script
