import Segmentation.Script.Lexeme

/-!
# Inserted semicolons

A statement may end without a semicolon at the end of the source, in front of a closing brace, or
where a line ends and what follows does not look as if it went on. Whether it does is decided by its
first characters alone, so a line that begins with a bracket goes on with the statement before it.

The scans here look ahead as far as they have to, and say where they stopped, since a question mark
there may still be a token of its own.
-/

namespace Segmentation.Script

/-- A letter as far as the end of a word is concerned. -/
def isLetter (character : Char) : Bool :=
  isWord character && !character.isDigit && character != '_'

/-- Whether a text is at its end, where a null character counts as one. -/
def isAtEnd (text : Text) : Bool :=
  text.head?.getD '\x00' == '\x00'

/-! ## Comments on the way -/

/-- What a scan over white space and comments came to: where it stopped, whether it passed a
comment, and whether a line may have ended. -/
structure Passage where
  rest : Text
  sawComment : Bool := false
  mayEnd : Bool := true

/-- What is left after the end of a line comment. Only newlines end it, and in untyped sources also
the other line ends. -/
def afterLine (typed : Bool) (text : Text) : Text :=
  text.dropWhile fun character =>
    character != '\x00' && !(if typed then character == '\n' else isLineEnd character)

/-- Passes over white space and comments; nothing where a slash opens no comment. Unless the scan
goes `through`, it stops after a block comment, and a line has ended only if the comment holds the
end of one. -/
def passComments (typed through sawLine sawComment : Bool) (text : Text) : Option Passage :=
  match _equal : text.dropWhile isBreakable with
  | '/' :: '/' :: rest => passComments typed through sawLine true (afterLine typed rest)
  | '/' :: '*' :: rest =>
      match blockCommentRest rest with
      | none => some { rest := [], sawComment }
      | some count =>
          let after := rest.drop count
          let sawLine := sawLine || (rest.take count).any isLineEnd
          if through || after.head? == some '/' then passComments typed through sawLine true after
          else some { rest := after, sawComment := true, mayEnd := sawLine }
  | '/' :: _ => none
  | rest => some { rest, sawComment }
termination_by text.length
decreasing_by
  all_goals
    have shorter := (List.dropWhile_sublist (l := text) isBreakable).length_le
    rw [_equal] at shorter
    simp only [List.length_cons] at shorter
  · have := (List.dropWhile_sublist (l := rest) fun character =>
      character != '\x00' && !(if typed then character == '\n' else isLineEnd character)).length_le
    simp only [afterLine]
    omega
  · simp only [List.length_drop]
    omega

/-! ## The start of a line -/

/-- What a scan for an inserted semicolon came to: whether there is one, where the scan stopped, and
whether it passed a comment. -/
structure Insertion where
  isThere : Bool
  rest : Text := []
  sawComment : Bool := false

/-- The tokens that a text might go on with, as far as inserted semicolons depend on them: an
operator between operands, and the body of a function. -/
structure Outlook where
  operator : Bool
  functionBody : Bool := false

/-- Whether a text goes on with the rest of a word, and where the scan for it stopped. -/
def passWord : List Char → Text → Bool × Text
  | [], text => (true, text)
  | letter :: letters, text =>
      if text.head? == some letter then passWord letters (text.drop 1) else (false, text)

/-- Whether a semicolon is inserted in front of a line that begins with the letter `i`: not in front
of `in` and `instanceof`, which go on with an expression. -/
def insertsBeforeWord (rest : Text) : Insertion :=
  match rest with
  | 'n' :: rest =>
      let endsHere (text : Text) := !(text.head?.map isLetter).getD false
      if endsHere rest then ⟨false, rest, false⟩
      else
        let (isWhole, rest) := passWord "stanceof".toList rest
        ⟨!(isWhole && endsHere rest), rest, false⟩
  | rest => ⟨true, rest, false⟩

/-- The characters with which a line goes on with the statement before it. -/
def continuations : List Char :=
  ['\x60', ',', ':', ';', '*', '%', '>', '<', '=', '?', '^', '|', '&', '/']

/-- Whether a semicolon is inserted in front of a line. Typed grammars take a bracket as the
continuation of an operand only, and a brace as that of a signature. -/
def insertsBeforeLine (typed : Bool) (outlook : Outlook) (text : Text) : Insertion :=
  match text with
  | [] => ⟨true, [], false⟩
  | first :: rest =>
      if continuations.contains first then ⟨false, text, false⟩
      else if first = '(' || first = '[' then ⟨typed && !outlook.operator, text, false⟩
      else if first = '\x7b' then ⟨!(typed && outlook.functionBody), text, false⟩
      else if first = '.' then
        if typed then ⟨false, text, false⟩
        else ⟨(rest.head?.map Char.isDigit).getD false, rest, false⟩
      else if first = '+' || first = '-' then ⟨rest.head? == some first, rest, false⟩
      else if first = '!' then ⟨rest.head? != some '=', rest, false⟩
      else if first = 'i' then insertsBeforeWord rest
      else ⟨true, text, false⟩

/-- Whether a semicolon is inserted after the end of a line. -/
def insertsAfterLine (typed : Bool) (outlook : Outlook) (sawComment : Bool) (text : Text) :
    Insertion :=
  match passComments typed true false sawComment text with
  | none => ⟨false, [], true⟩
  | some passage =>
      { insertsBeforeLine typed outlook passage.rest with sawComment := passage.sawComment }

/-! ## The end of a statement -/

/-- Whether a semicolon is inserted in a typed script. A brace that a type follows closes a pattern
and no block. -/
def insertsInTyped (outlook : Outlook) : Text → Insertion
  | [] => ⟨true, [], false⟩
  | first :: rest =>
      if first = '\x00' then ⟨true, rest, false⟩
      else if first = '\x7d' then
        let after := rest.dropWhile isBreakable
        ⟨after.head? != some ':' || outlook.operator, after, false⟩
      else if first = '\n' then insertsAfterLine true outlook false rest
      else if isBreakable first then insertsInTyped outlook rest
      else ⟨false, first :: rest, false⟩

/-- Whether a semicolon is inserted in an untyped script. Where no operand is in front, a comment
that may hold the end of a line is enough. The budget is a text that is as long as the one that is
read: each step takes a character off both. -/
def insertsInPlain (outlook : Outlook) : Text → Bool → Text → Insertion
  | [], sawComment, text => ⟨isAtEnd text, text, sawComment⟩
  | _ :: budget, sawComment, text =>
      if isAtEnd text then ⟨true, text, sawComment⟩
      else
        let passage :=
          if text.head? == some '/' then passComments false false false sawComment text
          else some { rest := text, sawComment, mayEnd := false }
        match passage with
        | none => ⟨false, text, true⟩
        | some passage =>
            let sawComment := passage.sawComment
            let next := passage.rest.head?.getD '\x00'
            if passage.mayEnd && !outlook.operator && next != ',' && next != '=' then
              ⟨true, passage.rest, sawComment⟩
            else if next = '\x7d' then ⟨true, passage.rest, sawComment⟩
            else if isLineEnd next then
              insertsAfterLine false outlook sawComment (passage.rest.drop 1)
            else if isBreakable next then
              insertsInPlain outlook budget sawComment (passage.rest.drop 1)
            else ⟨false, passage.rest, sawComment⟩

/-- Whether a semicolon is inserted at the start of a text. -/
def insertion (typed : Bool) (outlook : Outlook) (text : Text) : Insertion :=
  if typed then insertsInTyped outlook text
  else insertsInPlain outlook text false text

end Segmentation.Script
