import Segmentation.Lr.Reader
import Segmentation.Script.Grammar
import Segmentation.Script.Insertion

/-!
# Tokens of scripts

Which tokens a text may go on with decides how it is split into them: what is a pattern after an
operator is a division after an operand, and a word is a name where it cannot open anything. The
longest token is taken; those that stand inside a string or a pattern come before white space and
comments.

Semicolons that are inserted, the question mark of a choice, characters of templates and text in
markup are looked for first, each where it may stand.
-/

namespace Segmentation.Script

open Lr (Table Token TokenSet Cursor)

/-- The numbers of the tokens of a grammar. -/
structure Lexicon where
  isTyped : Bool
  /-- The tokens that are no fixed words or signs, by name. -/
  named : Std.HashMap String Nat
  words : Std.HashMap String Nat
  /-- The signs, from the longest to the shortest. -/
  signs : List (String × Nat)
  /-- All words and names. -/
  letters : TokenSet

namespace Lexicon

/-- The lexicon of a table. -/
def ofTable (isTyped : Bool) (table : Table) : Lexicon :=
  let numbered := table.tokens.toList.zipIdx
  let literals := numbered.filter fun (info, _) => info.isLiteral
  let isWord (info : Lr.TokenInfo) := info.name.toList.all isNamePart
  let signs := (literals.filter fun (info, _) => !isWord info).map fun (info, number) =>
    (info.name, number)
  let words := literals.filter fun (info, _) => isWord info
  let others := numbered.filter fun (info, _) => !info.isLiteral
  let collect (found : List (Lr.TokenInfo × Nat)) : Std.HashMap String Nat :=
    found.foldl (fun known (info, number) => known.insert info.name number) ∅
  let named := collect others
  { isTyped, named
    words := collect words
    signs := signs.mergeSort fun (left, _) (right, _) => right.length ≤ left.length
    letters := words.foldl (fun known (_, number) => known.union (.singleton number))
      ((named["identifier"]?.map TokenSet.singleton).getD 0) }

variable (lexicon : Lexicon)

/-- Whether a text may go on with the token of a name. -/
def allows (expected : TokenSet) (name : String) : Bool :=
  (lexicon.named[name]?.map expected.has).getD false

/-- Whether a text may go on with a sign. -/
def allowsSign (expected : TokenSet) (sign : String) : Bool :=
  ((lexicon.signs.lookup sign).map expected.has).getD false

/-- A token of a name after a gap, if the grammar has it. -/
def token? (name : String) (gap count : Nat) (cursor : Cursor) : Option Token := do
  let number ← lexicon.named[name]?
  let start := cursor.advance gap
  return { number, start, stop := start.advance count }

/-! ## What is looked for first -/

/-- The question mark of a choice between two values, after a gap: the length of the gap. In typed
scripts no sign of a type or of a parameter may follow it. -/
def choiceMark (text : Text) : Option Nat :=
  let gap := (text.takeWhile isBreakable).length
  match text.drop gap with
  | '?' :: rest =>
      let next := rest.head?
      if next == some '?' || (lexicon.isTyped && next == some '.') then none
      else
        let after := if lexicon.isTyped then rest.dropWhile isBreakable else rest
        if lexicon.isTyped && [some ':', some ')', some ','].contains after.head? then none
        else if after.head? == some '.' then
          if (after[1]?.map Char.isDigit).getD false then some gap else none
        else some gap
  | _ => none

/-- A question mark after the given number of characters, if it opens a choice. -/
def choice? (passed : Nat) (cursor : Cursor) : Option Token := do
  let gap ← lexicon.choiceMark (cursor.rest.drop passed)
  lexicon.token? "_ternary_qmark" (passed + gap) 1 cursor

/-- A semicolon that is inserted, or the question mark in front of which none is. -/
def insertion? (expected : TokenSet) (cursor : Cursor) : Option Token :=
  let body := lexicon.allows expected "_function_signature_automatic_semicolon"
  let outlook : Outlook := ⟨lexicon.allowsSign expected "||", body⟩
  let found := insertion lexicon.isTyped outlook cursor.rest
  if found.isThere then lexicon.token? "_automatic_semicolon" 0 0 cursor
  else if !found.sawComment && lexicon.allows expected "_ternary_qmark" &&
      found.rest.head? == some '?' then
    lexicon.choice? (cursor.rest.length - found.rest.length) cursor
  else none

/-- A comment in the manner of markup, where no operator and no part of a string may stand. -/
def markupComment? (expected : TokenSet) (cursor : Cursor) : Option Token :=
  if lexicon.allowsSign expected "||" || lexicon.allows expected "escape_sequence" ||
      lexicon.allows expected "regex_pattern" then none
  else do
    let gap := (cursor.rest.takeWhile isBreakable).length
    let count ← markupComment (cursor.rest.drop gap)
    let token ← lexicon.token? "html_comment" gap count cursor
    return { token with isExtra := true }

/-- What is looked for first, where it may stand. -/
def first? (expected : TokenSet) (cursor : Cursor) : Option Token :=
  let inserts := lexicon.allows expected "_automatic_semicolon" ||
    (lexicon.isTyped && lexicon.allows expected "_function_signature_automatic_semicolon")
  if lexicon.allows expected "_template_chars" then
    if lexicon.allows expected "_automatic_semicolon" then none
    else do
      lexicon.token? "_template_chars" 0 (← templateFragment cursor.rest) cursor
  else
    let text := if lexicon.allows expected "jsx_text" then markupText cursor.rest else none
    match text with
    | some count => lexicon.token? "jsx_text" 0 count cursor
    | none =>
        if inserts then lexicon.insertion? expected cursor
        else if lexicon.allows expected "_ternary_qmark" then lexicon.choice? 0 cursor
        else lexicon.markupComment? expected cursor

/-! ## Inside strings and patterns -/

/-- The tokens in front of which there is no white space. -/
def inside : List (String × Lexeme) :=
  [("unescaped_double_string_fragment", stringFragment '"'),
    ("unescaped_single_string_fragment", stringFragment '\''),
    ("escape_sequence", escape),
    ("unescaped_double_jsx_string_fragment", markupStringFragment '"'),
    ("unescaped_single_jsx_string_fragment", markupStringFragment '\''),
    ("_regex_end", fun text => if text.startsWith "/" then some 1 else none),
    ("regex_pattern", patternBody),
    ("regex_flags", span1 Char.isLower)]

/-- A token inside a string or a pattern. -/
def inside? (expected : TokenSet) (cursor : Cursor) : Option Token :=
  inside.findSome? fun (name, lexeme) =>
    if lexicon.allows expected name then do
      lexicon.token? name 0 (← lexeme cursor.rest) cursor
    else none

/-! ## After white space -/

/-- The tokens that are no words and no signs. -/
def others : List (String × Lexeme) :=
  [("private_property_identifier", privateName), ("number", number),
    ("jsx_identifier", dashedName), ("html_character_reference", characterReference),
    ("_static_get", staticGet), ("hash_bang_line", interpreterLine)]

/-- The longest sign that may stand in front of a text. -/
def sign? (expected : TokenSet) (text : Text) : Option (Nat × Nat) :=
  (lexicon.signs.find? fun (sign, number) => expected.has number && text.startsWith sign).map
    fun (sign, number) => (number, sign.length)

/-- The token of a word: itself where it may stand, or where it is reserved, and else a name. -/
def wordToken (expected : TokenSet) (word : Text) (start stop : Cursor) : Option Token := do
  let identifier ← lexicon.named["identifier"]?
  let plain : Token := { number := identifier, start, stop }
  let isReserved := !lexicon.isTyped && word.isOneOf reservedWords
  match lexicon.words[String.ofList word]? with
  | none => return plain
  | some number =>
      if expected.has number || (isReserved && !expected.has Table.reservedName) then
        return { number, start, stop, plain := if isReserved then none else some identifier }
      else return plain

/-- The longest token at the start of a text. -/
def longest? (expected : TokenSet) (start : Cursor) : Option Token :=
  let text := start.rest
  let named :=
    others.filterMap fun (name, lexeme) =>
      if lexicon.allows expected name then do
        lexicon.token? name 0 (← lexeme text) start
      else none
  let signs := ((lexicon.sign? expected text).map fun (number, count) =>
    ({ number, start, stop := start.advance count } : Token)).toList
  let words :=
    if lexicon.letters &&& expected = 0 then []
    else
      (name text).toList.filterMap fun count =>
        lexicon.wordToken expected (text.take count) start (start.advance count)
  (named ++ words ++ signs).foldl
    (fun (best : Option Token) token =>
      match best with
      | some known => if known.stop.byte < token.stop.byte then some token else best
      | none => some token)
    none

/-- The next token of a script. -/
def next : Lr.Lexer := fun expected cursor =>
  match (lexicon.first? expected cursor).or (lexicon.inside? expected cursor) with
  | some token => some token
  | none =>
      let start := cursor.advance (cursor.rest.takeWhile isGap).length
      match comment start.rest with
      | some count => do
          let token ← lexicon.token? "comment" 0 count start
          return { token with isExtra := true }
      | none =>
          if start.rest.isEmpty then some { number := Table.endOfText, start, stop := start }
          else lexicon.longest? expected start

end Lexicon

end Segmentation.Script
