import Segmentation.CommandLine.Arguments
import Segmentation.Settings

/-!
# Commands

What a command line asks for: the records of a file, the table of languages, or the version. Values
of options are checked here as far as each can be checked alone.
-/

namespace Segmentation.CommandLine

/-- A request for the records of a file. -/
structure ChunkRequest where
  file : Path
  maxChunkSize : Option Int
  overlap : Option Int
  signatures : Bool
  /-- Whether records are wanted as JSON and not as a table. -/
  asJson : Bool
  /-- The file for the log. -/
  log : Option Path
  deriving DecidableEq, Repr

/-- What a command line asks for. -/
inductive Command where
  | chunk (request : ChunkRequest)
  | languages
  | version
  deriving DecidableEq, Repr

/-- What one option of a request for records says. -/
inductive ChunkSetting where
  | maxChunkSize (text : Text)
  | overlap (text : Text)
  | signatures (wanted : Bool)
  | json
  | log (file : Text)

/-- What the options of a request for records say together. -/
structure ChunkSettings where
  maxChunkSize : Option Text := none
  overlap : Option Text := none
  signatures : Bool := true
  asJson : Bool := false
  log : Option Text := none

/-- Settings after one more option. What was said before about the same thing is forgotten. -/
def ChunkSettings.apply (settings : ChunkSettings) : ChunkSetting → ChunkSettings
  | .maxChunkSize text => { settings with maxChunkSize := some text }
  | .overlap text => { settings with overlap := some text }
  | .signatures wanted => { settings with signatures := wanted }
  | .json => { settings with asJson := true }
  | .log file => { settings with log := some file }

/-- The options of a request for records. -/
def chunkOptions : OptionTable ChunkSetting where
  long :=
    [("--max-chunk-size", .valued .maxChunkSize), ("--overlap", .valued .overlap),
      ("--signatures", .alone (.signatures true)), ("--no-signatures", .alone (.signatures false)),
      ("--json", .alone .json), ("--log", .valued .log)]
  short := [('m', .maxChunkSize), ('o', .overlap)]

/-- The integer that the value of an option spells, if there is a value. -/
def integerAtLeast (least : Int) : Option Text → Except UsageFault (Option Int)
  | none => .ok none
  | some text =>
      match Spelled.field text with
      | .error _ => .error (.notInteger text)
      | .ok value => if value < least then .error (.tooSmall value least) else .ok (some value)

/-- The path that an argument spells. -/
def pathOf (text : Text) : Except UsageFault Path :=
  if text.elem '\x00' then .error (.nullCharacter text) else .ok (.ofText text)

/-- The request that the arguments of the command stand for. -/
def ChunkRequest.ofTexts (texts : List Text) : Except UsageFault ChunkRequest := do
  let arguments ← Arguments.ofTexts chunkOptions texts
  let settings := arguments.settings.foldl ChunkSettings.apply {}
  let maxChunkSize ← integerAtLeast 1 settings.maxChunkSize
  let overlap ← integerAtLeast 0 settings.overlap
  let log ← settings.log.mapM pathOf
  match arguments.operands with
  | [] => .error .missingOperand
  | [operand] =>
      let file ← pathOf operand
      return { file, maxChunkSize, overlap, signatures := settings.signatures
               asJson := settings.asJson, log }
  | _ :: extra :: _ => .error (.extraOperand extra)

/-- The command, if its arguments are empty. -/
def Command.withoutArguments (command : Command) (texts : List Text) :
    Except UsageFault Command := do
  let arguments ← Arguments.ofTexts (α := Empty) {} texts
  match arguments.operands with
  | [] => return command
  | extra :: _ => .error (.extraOperand extra)

/-- The command with the given name. -/
def Command.ofName (name : Text) (texts : List Text) : Except UsageFault Command :=
  if name == "chunk".toList then .chunk <$> ChunkRequest.ofTexts texts
  else if name == "languages".toList then Command.languages.withoutArguments texts
  else if name == "version".toList then Command.version.withoutArguments texts
  else .error (.unknownCommand name)

/-- The command that a command line asks for. No options come before its name. -/
def Command.ofTexts (texts : List Text) : Except UsageFault Command := do
  let texts := if texts.head? == some "--".toList then texts.tail else texts
  match texts with
  | [] => .error .noCommand
  | name :: arguments => ofName name arguments

end Segmentation.CommandLine
