import Segmentation.Number.Digits
import Segmentation.Number.Nearest
import Segmentation.Text.Utf8
import Segmentation.Toml.Document

/-!
# Reading TOML

Documents are read statement by statement, and each changes the document that was read so far. A
fault keeps the text that was left where it was found, from which its line and column follow.
-/

namespace Segmentation.Toml

/-- What is wrong, and the text that was left where it was found. -/
structure Fault where
  problem : Problem
  rest : Text

/-- A problem at the start of a text. -/
def problemAt {α : Type} (rest : Text) (problem : Problem) : Except Fault α :=
  .error ⟨problem, rest⟩

/-- The outcome of a change to the document, with its problem placed at the start of a text. -/
def placedAt {α : Type} (rest : Text) (outcome : Except Problem α) : Except Fault α :=
  outcome.mapError (⟨·, rest⟩)

/-! ## Gaps -/

/-- The text without blanks at its start. -/
def skipBlanks (text : Text) : Text :=
  text.dropWhile isIndent

/-- The text without blanks and newlines at its start. -/
def skipLines (text : Text) : Text :=
  text.dropWhile fun character => isIndent character || character == '\n'

/-- A control character other than the tab, and, in texts of several lines, other than the
newline. -/
def isIllegal (severalLines : Bool) (character : Char) : Bool :=
  (character.toNat < 32 || character.toNat == 127) && character != '\t' &&
    !(severalLines && character == '\n')

/-- The text up to the first occurrence of a mark, and the text from there on. -/
def upTo? (mark : Text) : Text → Option (Text × Text)
  | [] => if mark.isEmpty then some ([], []) else none
  | character :: rest =>
      if mark.isPrefixOf (character :: rest) then some ([], character :: rest)
      else (upTo? mark rest).map fun (before, after) => (character :: before, after)

/-- Passes over legal characters in front of the text `stop`. -/
def passLegal (severalLines : Bool) (text stop : Text) : Except Fault Unit :=
  let found := (text.take (text.length - stop.length)).dropWhile fun character =>
    !isIllegal severalLines character
  match found with
  | [] => .ok ()
  | character :: _ =>
      let rest := text.drop (text.length - stop.length - found.length)
      problemAt rest (.invalidCharacter character)

/-- Passes over a comment, if one stands at the start of the text. -/
def skipComment : Text → Except Fault Text
  | '#' :: rest => do
      let stop := rest.dropWhile (· != '\n')
      passLegal false rest stop
      return stop
  | text => .ok text

/-- Passes over blanks, newlines and comments. -/
def skipLinesAndComments : Nat → Text → Except Fault Text
  | 0, text => .ok text
  | budget + 1, text => do
      let rest ← skipComment (skipLines text)
      if rest.length = text.length then return rest else skipLinesAndComments budget rest

/-! ## Strings -/

/-- The character that so many hexadecimal digits stand for. -/
def readHex (count : Nat) (text : Text) : Except Fault (Text × Text) :=
  let digits := text.take count
  if digits.length < count || !digits.all isHexDigit then problemAt text .invalidHex
  else
    let value := groupedValue 16 digits
    let rest := text.drop count
    if value.isValidChar then .ok ([Char.ofNat value], rest) else problemAt rest .notScalar

/-- What single characters stand for after a backslash. -/
def escapes : List (Char × Char) :=
  [('b', '\x08'), ('t', '\t'), ('n', '\n'), ('f', '\x0c'), ('r', '\r'), ('"', '"'), ('\\', '\\')]

/-- What an escape stands for; the text begins after the backslash. In texts of several lines, a
backslash at the end of a line takes away the newline and all blanks after it. -/
def readEscape (severalLines : Bool) (text : Text) : Except Fault (Text × Text) :=
  let rest := text.drop 1
  match text with
  | [] => problemAt [] .strayBackslash
  | first :: _ =>
      if severalLines && first == '\n' then .ok ([], skipLines rest)
      else if severalLines && isIndent first then
        match skipBlanks rest with
        | [] => .ok ([], [])
        | '\n' :: after => .ok ([], skipLines after)
        | other => problemAt other .strayBackslash
      else if first = 'u' then readHex 4 rest
      else if first = 'U' then readHex 8 rest
      else
        match escapes.lookup first with
        | some character => .ok ([character], rest)
        | none => problemAt rest .strayBackslash

/-- A text in double quotes after its opening, in reverse before what was read so far. -/
def readBasic (severalLines : Bool) : Nat → Text → Text → Except Fault (Text × Text)
  | 0, _, text => problemAt text .unterminated
  | budget + 1, read, text =>
      match text with
      | [] => problemAt [] .unterminated
      | '"' :: rest =>
          if !severalLines then .ok (read.reverse, rest)
          else if Text.startsWith rest "\"\"" then .ok (read.reverse, rest.drop 2)
          else readBasic severalLines budget ('"' :: read) rest
      | '\\' :: rest => do
          let (piece, rest) ← readEscape severalLines rest
          readBasic severalLines budget (piece.reverse ++ read) rest
      | character :: rest =>
          if isIllegal severalLines character then problemAt text (.illegalCharacter character)
          else readBasic severalLines budget (character :: read) rest

/-- A text in apostrophes after its opening: everything up to the mark. -/
def readLiteral (severalLines : Bool) (mark : String) (text : Text) : Except Fault (Text × Text) :=
  match upTo? mark.toList text with
  | none => problemAt [] (.expectedMark mark)
  | some (inside, rest) => do
      passLegal severalLines text rest
      return (inside, rest.drop mark.length)

/-- Up to two more quotes, which belong to the text when its closing is longer than three. -/
def takeMore (mark : Char) (inside rest : Text) : Text × Text :=
  let more := (rest.takeWhile (· == mark)).take 2
  (inside ++ more, rest.drop more.length)

/-- A text of several lines after its opening. A newline right after the opening is dropped. -/
def readLongString (mark : Char) (text : Text) : Except Fault (Text × Text) := do
  let text := if text.head? == some '\n' then text.drop 1 else text
  let (inside, rest) ←
    if mark = '"' then readBasic true (text.length + 1) [] text else readLiteral true "'''" text
  return takeMore mark inside rest

/-! ## Keys -/

/-- A character of a name without quotes. -/
def isBare (character : Char) : Bool :=
  character.isAlphanum || character == '-' || character == '_'

/-- One name of a key. -/
def readName (text : Text) : Except Fault (Text × Text) :=
  match text with
  | '\'' :: rest => readLiteral false "'" rest
  | '"' :: rest => readBasic false (rest.length + 1) [] rest
  | _ =>
      match text.takeWhile isBare with
      | [] => problemAt text .invalidKey
      | name => .ok (name, text.drop name.length)

/-- Names with dots between them, and blanks after each. -/
def readKey : Nat → Text → Except Fault (Key × Text)
  | 0, text => problemAt text .invalidKey
  | budget + 1, text => do
      let (name, rest) ← readName text
      match skipBlanks rest with
      | '.' :: after =>
          let (others, rest) ← readKey budget (skipBlanks after)
          return (name :: others, rest)
      | rest => return ([name], rest)

/-! ## Numbers and moments -/

/-- So many digits at the start of a text, as a number in the given range. -/
def readDigits? (count low high : Nat) (text : Text) : Option (Nat × Text) :=
  let digits := text.take count
  if digits.length = count && digits.all Char.isDigit then
    let value := groupedValue 10 digits
    if low ≤ value && value ≤ high then some (value, text.drop count) else none
  else none

/-- The text after a character that it begins with. -/
def afterCharacter? (character : Char) : Text → Option Text
  | first :: rest => if first = character then some rest else none
  | [] => none

/-- A time of day. -/
def readTime? (text : Text) : Option (Time × Text) := do
  let (hour, rest) ← readDigits? 2 0 23 text
  let rest ← afterCharacter? ':' rest
  let (minute, rest) ← readDigits? 2 0 59 rest
  let rest ← afterCharacter? ':' rest
  let (second, rest) ← readDigits? 2 0 59 rest
  let fraction : Text :=
    match rest with
    | '.' :: digits => digits.takeWhile Char.isDigit
    | _ => []
  let micros := groupedValue 10 ((fraction ++ List.replicate 6 '0').take 6)
  let taken := if fraction.isEmpty then 0 else fraction.length + 1
  return (⟨hour, minute, second, micros⟩, rest.drop taken)

/-- A distance from universal time in minutes, where there is one. -/
def readOffset (text : Text) : Option Int × Text :=
  let distance? (rest : Text) : Option (Int × Text) := do
    let (hours, rest) ← readDigits? 2 0 23 rest
    let rest ← afterCharacter? ':' rest
    let (minutes, rest) ← readDigits? 2 0 59 rest
    return ((hours * 60 + minutes : Nat), rest)
  match text with
  | 'Z' :: rest | 'z' :: rest => (some 0, rest)
  | '+' :: rest =>
      match distance? rest with
      | some (minutes, after) => (some minutes, after)
      | none => (none, text)
  | '-' :: rest =>
      match distance? rest with
      | some (minutes, after) => (some (-minutes), after)
      | none => (none, text)
  | _ => (none, text)

/-- A day, perhaps with a time. -/
def readMoment? (text : Text) : Option ((Date × Moment) × Text) := do
  let (year, rest) ← readDigits? 4 0 9999 text
  let rest ← afterCharacter? '-' rest
  let (month, rest) ← readDigits? 2 1 12 rest
  let rest ← afterCharacter? '-' rest
  let (day, rest) ← readDigits? 2 1 31 rest
  let date : Date := ⟨year, month, day⟩
  let time? : Option (Time × Text) :=
    match rest with
    | 'T' :: after | 't' :: after | ' ' :: after => readTime? after
    | _ => none
  match time? with
  | some (time, after) =>
      let (offset, after) := readOffset after
      return ((date, .dateTime date time offset), after)
  | none => return ((date, .date date), rest)

/-- The length of an exponent, and the power that it stands for. -/
def readExponent (text : Text) : Nat × Int :=
  match text with
  | 'e' :: rest | 'E' :: rest =>
      let (negative, signs) : Bool × Nat :=
        match rest with
        | '-' :: _ => (true, 1)
        | '+' :: _ => (false, 1)
        | _ => (false, 0)
      let digits := rest.drop signs
      match groupedDigits Char.isDigit digits with
      | 0 => (0, 0)
      | count =>
          let power : Int := groupedValue 10 (digits.take count)
          (1 + signs + count, if negative then -power else power)
  | _ => (0, 0)

/-- An integer with the mark of a base, after its mark. -/
def readBased? (base : Nat) (isDigit : Char → Bool) (text : Text) : Option (Value × Text) :=
  match groupedDigits isDigit text with
  | 0 => none
  | count => some (.integer (groupedValue base (text.take count)), text.drop count)

/-- A decimal number. It is an integer unless it has a fraction or an exponent. -/
def readDecimal? (text : Text) : Option (Value × Text) :=
  let (negative, body) : Bool × Text :=
    match text with
    | '-' :: rest => (true, rest)
    | '+' :: rest => (false, rest)
    | _ => (false, text)
  let whole := if body.head? == some '0' then 1 else groupedDigits Char.isDigit body
  if whole = 0 then none
  else
    let rest := body.drop whole
    let places : Nat :=
      match rest with
      | '.' :: digits => groupedDigits Char.isDigit digits
      | _ => 0
    let fraction := (rest.drop 1).take places
    let rest := if places = 0 then rest else rest.drop (places + 1)
    let (length, power) := readExponent rest
    let digits := body.take whole ++ fraction
    let magnitude := groupedValue 10 digits
    if places = 0 && length = 0 then
      some (.integer (if negative then -(magnitude : Int) else magnitude), rest)
    else
      let scale : Int := (fraction.filter (· != '_')).length
      some (.float (.ofDecimal negative magnitude (power - scale)), rest.drop length)

/-- An integer with the mark of a base. -/
def readMarked? (text : Text) : Option (Value × Text) :=
  match text with
  | '0' :: 'x' :: rest => readBased? 16 isHexDigit rest
  | '0' :: 'b' :: rest => readBased? 2 (fun digit => digit == '0' || digit == '1') rest
  | '0' :: 'o' :: rest => readBased? 8 (fun digit => '0' ≤ digit && digit ≤ '7') rest
  | _ => none

/-- A decimal number that was read at the start of a text, unless it is an integer with more digits
than the limit. -/
def withinLimit (text : Text) : Value × Text → Except Fault (Value × Text)
  | (.integer value, rest) =>
      let digits := (text.take (text.length - rest.length)).countP Char.isDigit
      if digitLimit < digits then problemAt text (.tooLong digits) else .ok (.integer value, rest)
  | reading => .ok reading

/-- A number in one of four bases, if the text begins with one. -/
def readNumber? (text : Text) : Option (Except Fault (Value × Text)) :=
  match readMarked? text with
  | some reading => some (.ok reading)
  | none => (readDecimal? text).map (withinLimit text)

/-- The numbers that are written as words. -/
def numberWords : List (String × Binary64) :=
  [("inf", .infinite false), ("nan", .nan), ("-inf", .infinite true), ("+inf", .infinite false),
    ("-nan", .nan), ("+nan", .nan)]

/-- A value without parts that is no text. -/
def readPlain (text : Text) : Except Fault (Value × Text) :=
  match readMoment? text with
  | some ((date, moment), rest) =>
      if date.isValid then .ok (.moment moment, rest) else problemAt text .invalidMoment
  | none =>
      match readTime? text with
      | some (time, rest) => .ok (.moment (.time time), rest)
      | none =>
          match readNumber? text with
          | some outcome => outcome
          | none =>
              match numberWords.find? fun word => text.startsWith word.1 with
              | some (word, number) => .ok (.float number, text.drop word.length)
              | none => problemAt text .invalidValue

/-! ## Values -/

mutual

/-- A value. The budget bounds how often values, items and members are read one inside another or
one after another. -/
def readValue : Nat → Text → Except Fault (Value × Text)
  | 0, text => problemAt text .invalidValue
  | budget + 1, text =>
      let string (outcome : Except Fault (Text × Text)) : Except Fault (Value × Text) :=
        outcome.map fun (inside, rest) => (.string inside, rest)
      match text with
      | '"' :: '"' :: '"' :: rest => string (readLongString '"' rest)
      | '"' :: rest => string (readBasic false (rest.length + 1) [] rest)
      | '\'' :: '\'' :: '\'' :: rest => string (readLongString '\'' rest)
      | '\'' :: rest => string (readLiteral false "'" rest)
      | '[' :: rest => do
          let rest ← skipLinesAndComments rest.length rest
          if rest.head? == some ']' then return (.array [], rest.drop 1)
          let (items, rest) ← readItems budget rest
          return (.array items, rest)
      | '\x7b' :: rest => do
          let rest := skipBlanks rest
          if rest.head? == some '\x7d' then return (.table [], rest.drop 1)
          readMembers budget {} rest
      | _ =>
          if text.startsWith "true" then .ok (.boolean true, text.drop 4)
          else if text.startsWith "false" then .ok (.boolean false, text.drop 5)
          else readPlain text

/-- The items of an array up to its end. A comma may stand behind the last one. -/
def readItems : Nat → Text → Except Fault ((List Value) × Text)
  | 0, text => problemAt text .unclosedArray
  | budget + 1, text => do
      let (item, rest) ← readValue budget text
      let rest ← skipLinesAndComments rest.length rest
      match rest with
      | ']' :: after => return ([item], after)
      | ',' :: after =>
          let rest ← skipLinesAndComments after.length after
          if rest.head? == some ']' then return ([item], rest.drop 1)
          let (items, rest) ← readItems budget rest
          return (item :: items, rest)
      | rest => problemAt rest .unclosedArray

/-- The members of a table in braces up to its end. No comma stands behind the last one. -/
def readMembers : Nat → Document → Text → Except Fault (Value × Text)
  | 0, _, text => problemAt text .unclosedTable
  | budget + 1, document, text => do
      let ((key, value), rest) ← readMember budget text
      let document ← placedAt rest (document.addInline key value)
      match skipBlanks rest with
      | '\x7d' :: after => return (.table document.members, after)
      | ',' :: after => readMembers budget document (skipBlanks after)
      | rest => problemAt rest .unclosedTable

/-- A key, an equals sign and a value. -/
def readMember : Nat → Text → Except Fault ((Key × Value) × Text)
  | 0, text => problemAt text .expectedEquals
  | budget + 1, text => do
      let (key, rest) ← readKey (text.length + 1) text
      match rest with
      | '=' :: after =>
          let (value, rest) ← readValue budget (skipBlanks after)
          return ((key, value), rest)
      | rest => problemAt rest .expectedEquals

end

/-! ## Statements -/

/-- A header of a table or of an array of tables, with the document that it leads to. -/
def readHeader (document : Document) (text : Text) : Except Fault ((Document × Key) × Text) := do
  let document := document.closeSection
  let isArray := Text.startsWith text "[["
  let text := skipBlanks (text.drop (if isArray then 2 else 1))
  let (key, rest) ← readKey (text.length + 1) text
  if isArray then
    let document ← placedAt rest (document.openArrayTable key)
    if Text.startsWith rest "]]" then return ((document, key), rest.drop 2)
    else problemAt rest .unclosedArrayHeader
  else
    let document ← placedAt rest (document.openTable key)
    if Text.startsWith rest "]" then return ((document, key), rest.drop 1)
    else problemAt rest .unclosedHeader

/-- The end of a statement: perhaps a comment, and a newline or the end of the document. -/
def readLineEnd (text : Text) : Except Fault Text := do
  let rest ← skipComment (skipBlanks text)
  match rest with
  | [] => return []
  | '\n' :: after => return after
  | rest => problemAt rest .expectedLineEnd

/-- The statements of a document, at most as many as the budget. -/
def readStatements : Nat → Document → Key → Text → Except Fault Document
  | 0, document, _, _ => .ok document
  | budget + 1, document, header, text =>
      match skipBlanks text with
      | [] => .ok document
      | '\n' :: rest => readStatements budget document header rest
      | '#' :: rest => do
          let rest ← readLineEnd ('#' :: rest)
          readStatements budget document header rest
      | '[' :: rest => do
          let ((document, header), rest) ← readHeader document ('[' :: rest)
          let rest ← readLineEnd rest
          readStatements budget document header rest
      | first :: rest => do
          let text := first :: rest
          if !(isBare first || first = '"' || first = '\'') then problemAt text .invalidStatement
          else
            let ((key, value), rest) ← readMember (3 * text.length + 3) text
            let document ← placedAt rest (document.add header key value)
            let rest ← readLineEnd rest
            readStatements budget document header rest

/-- Where a fault was found: the end of the document, or a line and a column that count from one. -/
def placeOf (source : Text) (rest : Text) : Text :=
  if rest.isEmpty then "end of document".toList
  else
    let before : Text := source.take (source.length - rest.length)
    let column := (before.reverse.takeWhile (· != '\n')).length + 1
    "line ".toList ++ Text.ofNat (before.newlines + 1) ++ ", column ".toList ++ Text.ofNat column

/-- The text with every carriage return that a newline follows taken out. -/
def withPlainNewlines : Text → Text
  | [] => []
  | '\r' :: '\n' :: rest => '\n' :: withPlainNewlines rest
  | character :: rest => character :: withPlainNewlines rest

/-- Why a file is not a TOML document. -/
inductive ReadFailure where
  | encoding (fault : Utf8Fault)
  | invalid (problem : Problem) (place : Text)
  /-- An integer of the document has so many digits. -/
  | tooLong (digits : Nat)

/-- The wording of a failure. -/
def ReadFailure.message : ReadFailure → Text
  | encoding fault => fault.message
  | invalid problem place => problem.message ++ " (at ".toList ++ place ++ [')']
  | tooLong digits => tooLongMessage digits

/-- The members of the document that a text holds. -/
def read (text : Text) : Except ReadFailure Members :=
  let source := withPlainNewlines text
  match readStatements (source.length + 1) {} [] source with
  | .ok document => .ok document.members
  | .error ⟨.tooLong digits, _⟩ => .error (.tooLong digits)
  | .error fault => .error (.invalid fault.problem (placeOf source fault.rest))

/-- The members of the document that a file holds. -/
def readBytes (bytes : List UInt8) : Except ReadFailure Members :=
  match Text.decodeUtf8 bytes with
  | .ok text => read text
  | .error fault => .error (.encoding fault)

end Segmentation.Toml
