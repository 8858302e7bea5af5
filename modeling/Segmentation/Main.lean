import Segmentation.CommandLine
import Segmentation.Script.Parse

/-!
# The program

Runs the command line on the files, the environment and the output of the process. Only this module
touches them: it reads what the command line may need, and carries out what the outcome says.
-/

namespace Segmentation.Main

/-- What is found on disk at the path that a text spells. -/
def findOnDisk (spelling : String) : IO (Except FileProblem (List UInt8)) := do
  try
    return .ok (← IO.FS.readBinFile spelling).toList
  catch
    | .noFileOrDirectory .. => return .error .missing
    | _ => return .error .isFolder

/-- The folder of the process, as far as the given spellings of paths show it. -/
def folderOf (spellings : List String) : IO Folder := do
  let found ← spellings.mapM fun spelling => do
    return (Path.ofText spelling.toList, ← findOnDisk spelling)
  return { find := fun path => (found.lookup path).getD (.error .missing) }

/-- The variables that a block lists, each written as its name and its value with `=` in between and
closed by a zero. Of several with the same name the first one counts, and what is no text does not
count at all. -/
def environmentOf (block : List UInt8) : Environment :=
  let entries := (block.splitOn 0).filterMap fun entry =>
    (Text.decodeUtf8 entry).toOption.bind (Text.cutAt? "=")
  entries.eraseDupsBy fun left right => left.1 == right.1

/-- The variables of the settings as they are asked for by name, in the usual case of letters. -/
def namedEnvironment : IO Environment := do
  let names := configurationVariable ::
    ["MAX_CHUNK_SIZE", "CHUNK_OVERLAP", "MIN_CHUNK_SIZE", "PRESERVE_SIGNATURES",
      "CALCULATE_COMPLEXITY", "LOG_LEVEL"].map ("SMARTCHUNK_" ++ ·)
  let values ← names.mapM fun name => do
    return (← IO.getEnv name).map fun value => (name.toList, value.toList)
  return values.filterMap id

/-- The variables of the process. The settings match names in any case of letters, so all variables
are listed where the system can list them. -/
def processEnvironment : IO Environment := do
  try
    return environmentOf (← IO.FS.readBinFile "/proc/self/environ").toList
  catch _ => namedEnvironment

/-- Writes the log of a run, with the folders that lead to it. -/
def writeLog (log : CommandLine.LogFile) : IO Unit := do
  let text (path : Path) := String.ofList path.toText
  IO.FS.createDirAll (text log.path.parent)
  let lines := log.events.flatMap fun event => event.toJson.compress ++ ['\n']
  IO.FS.writeFile (text log.path) (String.ofList lines)

end Segmentation.Main

open Segmentation in
def main (arguments : List String) : IO UInt32 := do
  let environment ← Main.processEnvironment
  let named := (environment.lookup configurationVariable.toList).map String.ofList
  let folder ← Main.folderOf (named.toList ++ standardConfiguration :: arguments)
  match Settings.load environment folder with
  | .error fault =>
      IO.eprintln (String.ofList fault.message)
      return 1
  | .ok settings =>
      let outcome := CommandLine.run Script.parse settings folder (arguments.map (·.toList))
      if let some log := outcome.log then Main.writeLog log
      IO.print (String.ofList outcome.output)
      match outcome.ending with
      | .done => pure ()
      | .refused fault => IO.eprintln (String.ofList fault.message)
      | .brokenOff fault => IO.eprintln (String.ofList fault.message)
      | .notShown fault => IO.eprintln (String.ofList fault.message)
      return outcome.ending.status.toUInt32
