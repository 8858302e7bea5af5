import Segmentation.Chunk
import Segmentation.Language

/-!
# Metrics

What is measured of a chunk for ranking: its lines of code, an estimate of its branching, a score of
its importance, and a preview. Branching is estimated from words and signs alone, so it is the same
for every language and also counts words inside comments and strings.
-/

namespace Segmentation.Metrics

/-! ## Lines of code -/

/-- Whether a line holds more than blanks and a comment. -/
def isCodeLine (markers : List String) (line : Text) : Bool :=
  !line.trim.isEmpty && !line.trim.startsWithAny markers

/-- The number of lines of a text that hold code. -/
def linesOfCode (content : Text) (markers : List String) : Nat :=
  content.lines.countP (isCodeLine markers)

/-! ## Branching -/

/-- The maximal runs of word characters and of other characters, in order; each run says which kind
it is. -/
def runs : Text → List (Bool × Text)
  | [] => []
  | character :: rest =>
      match runs rest with
      | [] => [(isWord character, [character])]
      | (word, run) :: others =>
          if isWord character = word then (word, character :: run) :: others
          else (isWord character, [character]) :: (word, run) :: others

/-- Words that stand for a branch or for a logical connective. -/
def branchWords : List String :=
  ["if", "else", "for", "while", "case", "catch", "try", "and", "or"]

/-- The number of runs that are branch words. -/
def branchWordCount (runs : List (Bool × Text)) : Nat :=
  runs.countP fun run => run.1 && Text.isOneOf run.2 branchWords

/-- The number of places where the word `else` is followed, after nothing but blanks, by the word
`if`. -/
def elseIfCount : List (Bool × Text) → Nat
  | (true, word) :: (false, gap) :: (true, next) :: others =>
      (if word = "else".toList ∧ gap.all isBlank ∧ next = "if".toList then 1 else 0) +
        elseIfCount ((false, gap) :: (true, next) :: others)
  | _ :: others => elseIfCount others
  | [] => 0

/-- The number of pairs of the given character, read from the left without overlap. -/
def pairCount (mark : Char) : Text → Nat
  | first :: second :: rest =>
      if first = mark ∧ second = mark then pairCount mark rest + 1
      else pairCount mark (second :: rest)
  | _ => 0

/-- The number of branches and connectives in a text. -/
def branchCount (content : Text) : Nat :=
  branchWordCount (runs content) + elseIfCount (runs content) + pairCount '&' content +
    pairCount '|' content + content.count '?'

/-- The largest estimate that is given. -/
def maxComplexity : Nat := 100

/-- One more than the number of branches, up to the largest estimate. -/
def complexity (content : Text) : Nat :=
  min (1 + branchCount content) maxComplexity

/-! ## Importance and visibility -/

/-- Whether a name marks what it names as public: it is not empty and has no leading underscore. -/
def isPublicName : Text → Bool
  | [] => false
  | character :: _ => character != '_'

/-- The largest score that is given. -/
def maxImportance : Nat := 10

/-- The importance of a chunk in half points. -/
def halfPoints (chunk : Chunk) : Nat :=
  10 + (if chunk.isExported then 4 else 0) + (if isPublicName chunk.name then 2 else 0) +
    (if chunk.kind = .functionDeclaration then 2 else 0) +
    (if chunk.kind = .classDeclaration then 2 else 0) +
    (if (chunk.docComment.getD []).isEmpty then 0 else 2) +
    (if chunk.isAsync then 1 else 0) + (if chunk.isGenerator then 1 else 0)

/-- The importance of a chunk, with halves rounded up. -/
def importance (chunk : Chunk) : Nat :=
  min ((halfPoints chunk + 1) / 2) maxImportance

/-! ## Preview -/

/-- How much of a text is previewed. -/
def previewLength : Nat := 200

/-- The beginning of a text on one line. -/
def preview (text : Text) : Text :=
  Text.trim ((text.take previewLength).map fun character =>
    if character = '\n' then ' ' else character)

end Segmentation.Metrics
