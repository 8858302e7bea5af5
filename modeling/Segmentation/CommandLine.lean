import Segmentation.CommandLine.Command
import Segmentation.Log
import Segmentation.Run
import Segmentation.Table

/-!
# The command line

What a command line prints, the status with which it ends, and what it logs. A command line that is
refused ends with status 2 and prints nothing; one that is broken off ends with status 1.
-/

namespace Segmentation.CommandLine

/-- The version that is printed. -/
def currentVersion : String := "0.3.0"

/-! ## Options of a request -/

/-- Why a request has no options. -/
inductive OptionsRefusal where
  /-- The settings alone are not valid. -/
  | settings (fault : OptionsFault)
  /-- The settings with what the request says are not valid. -/
  | request (fault : OptionsFault)
  deriving DecidableEq, Repr

/-- The options for a request: what it says itself, and the settings for the rest. A size of nothing
says nothing, other than an overlap of nothing. Later parts begin with signatures only where both
want that. -/
def ChunkRequest.options (request : ChunkRequest) (settings : Settings) :
    Except OptionsRefusal Options := do
  let standard ← settings.toOptions.mapError .settings
  let options :=
    Options.ofValues ((request.maxChunkSize.filter (· ≠ 0)).getD standard.maxChunkSize)
      (request.overlap.getD standard.overlap) standard.minChunkSize
      (request.signatures && standard.preserveSignatures) standard.calculateComplexity
  options.mapError .request

/-! ## Tables -/

/-- The row of a language, under its suffix. -/
def languageRow (suffix : String) (language : Language) : List Text :=
  let grammar := match language.grammar? with
    | some grammar => grammar.label
    | none => "-"
  [suffix, language.name, language.family.label, grammar].map (·.toList)

/-- The table of the registered suffixes. -/
def languageTable : Table where
  title := "Recognized extensions".toList
  columns := ["extension", "language", "family", "grammar"].map fun heading => { heading }
  rows := Language.registry.map fun (suffix, language) => languageRow suffix language

/-- Which part a chunk is, of how many. -/
def partText (chunk : Chunk) : Text :=
  if chunk.isPartial then
    Text.ofInt (chunk.partNumber + 1) ++ '/' :: Text.ofInt chunk.totalParts
  else ['-']

/-- The row of a record, with its index. -/
def recordRow (record : Record) (index : Nat) : List Text :=
  let chunk := record.chunk
  [Text.ofNat index, chunk.kind.label.toList, chunk.name,
    Text.ofInt chunk.startLine ++ '-' :: Text.ofInt chunk.endLine, partText chunk,
    Text.ofNat chunk.text.length, Text.ofNat record.complexity, Text.ofNat record.importance]

/-- The table of the records of a file. -/
def recordTable (path : Path) (records : List Record) : Table where
  title := path.name ++ " (".toList ++ Text.ofNat records.length ++ " chunks)".toList
  columns :=
    [⟨"#", .right⟩, ⟨"type", .left⟩, ⟨"name", .left⟩, ⟨"lines", .left⟩, ⟨"part", .left⟩,
      ⟨"chars", .right⟩, ⟨"cplx", .right⟩, ⟨"score", .right⟩]
  rows := records.zipIdx.map fun (record, index) => recordRow record index

/-! ## Outcomes -/

/-- How a run of the command line ends. -/
inductive Ending where
  | done
  | refused (fault : UsageFault)
  | brokenOff (fault : RunFault)
  /-- A table cannot be shown. -/
  | notShown (fault : MarkupFault)
  deriving DecidableEq, Repr

/-- The status that an ending stands for. -/
def Ending.status : Ending → Nat
  | done => 0
  | refused _ => 2
  | brokenOff _ => 1
  | notShown _ => 1

/-- The events in the log of a run, and the file that they are for. -/
structure LogFile where
  path : Path
  events : List Event
  deriving DecidableEq, Repr

/-- What a run of the command line does. -/
structure Outcome where
  ending : Ending
  output : Text := []
  /-- The log, if the run creates one. -/
  log : Option LogFile := none

/-- The outcome of a run that prints a text, if it can be shown. -/
def Outcome.ofText (text : Except MarkupFault Text) (log : Option LogFile) : Outcome :=
  match text with
  | .ok output => { ending := .done, output, log }
  | .error fault => { ending := .notShown fault, log }

/-- The text in which records are printed. -/
def ChunkRequest.present (request : ChunkRequest) (records : List Record) :
    Except MarkupFault Text :=
  if request.asJson then .ok ((Json.array (records.map (·.toJson))).pretty ++ ['\n'])
  else (recordTable request.file records).toText

/-- Does what a request asks for, in the folder as it is once the log is created. -/
def ChunkRequest.runIn (request : ChunkRequest) (treeOf : TreeReader) (settings : Settings)
    (folder : Folder) : Outcome :=
  let log (events : List Event) : Option LogFile := request.log.map (⟨·.resolved, events⟩)
  match request.options settings with
  | .error (.settings fault) => { ending := .brokenOff (.options fault), log := log [] }
  | .error (.request fault) => { ending := .refused (.options fault.wording), log := log [] }
  | .ok options =>
      match segmentFileTold treeOf folder request.file options with
      | .error fault => { ending := .brokenOff fault, log := log [] }
      | .ok told =>
          let events := told.events ++ [.fileDone request.file.toText told.value.length]
          .ofText (request.present told.value) (log events)

/-- Does what a request asks for. -/
def ChunkRequest.run (request : ChunkRequest) (treeOf : TreeReader) (settings : Settings)
    (folder : Folder) : Outcome :=
  if !folder.isFile request.file then { ending := .refused (.noFile request.file.toText) }
  else
    match request.log with
    | none => request.runIn treeOf settings folder
    | some path =>
        match folder.create path with
        | .error fault => { ending := .brokenOff (.file fault) }
        | .ok created => request.runIn treeOf settings created

/-- Does what a command asks for. -/
def Command.run (command : Command) (treeOf : TreeReader) (settings : Settings)
    (folder : Folder) : Outcome :=
  match command with
  | .chunk request => request.run treeOf settings folder
  | .languages => .ofText languageTable.toText none
  | .version => { ending := .done, output := currentVersion.toList ++ ['\n'] }

/-- Does what the arguments of a command line ask for. -/
def run (treeOf : TreeReader) (settings : Settings) (folder : Folder) (arguments : List Text) :
    Outcome :=
  match Command.ofTexts arguments with
  | .error fault => { ending := .refused fault }
  | .ok command => command.run treeOf settings folder

end Segmentation.CommandLine
