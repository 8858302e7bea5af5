import Segmentation.Folder
import Segmentation.Options
import Segmentation.Text.Case
import Segmentation.Toml.Read

/-!
# Settings

The values with which a run starts when nothing else is said. Each comes from the configuration file
if that has an entry for it, else from its variable in the environment, else from its default. Only
one configuration file is read.
-/

namespace Segmentation

/-- The values with which a run starts. They need not fit together. -/
structure Settings where
  maxChunkSize : Int := 4000
  chunkOverlap : Int := 200
  minChunkSize : Int := 500
  preserveSignatures : Bool := true
  calculateComplexity : Bool := true
  logLevel : Text := "INFO".toList
  deriving DecidableEq, Repr

/-- Why settings cannot be loaded. -/
inductive SettingsFault where
  /-- Variables of the environment have no usable values. -/
  | fields (faults : FieldFaults)
  | notIntegerText (text : Text)
  /-- An integer is written with so many digits. -/
  | tooLong (digits : Nat)
  /-- An integer has too many digits to be written. -/
  | unwritable
  | notInteger (kind : String)
  | infinite
  | notNumber
  /-- A section of the configuration is neither a table nor anything that holds texts. -/
  | noSection (kind : String)
  | textSection
  | arraySection
  | document (failure : Toml.ReadFailure)
  /-- It cannot be told whether there is a configuration file. -/
  | file (fault : FileFault)

/-- The wording of a fault. -/
def SettingsFault.message : SettingsFault → Text
  | fields faults => faults.message
  | notIntegerText text =>
      "invalid literal for int() with base 10: ".toList ++ text.quoted.take 200
  | tooLong digits => tooLongMessage digits
  | unwritable => unwritableMessage
  | notInteger kind =>
      "int() argument must be a string, a bytes-like object or a real number, not ".toList ++
        Text.quoted kind.toList
  | infinite => "cannot convert float infinity to integer".toList
  | notNumber => "cannot convert float NaN to integer".toList
  | noSection kind =>
      "argument of type ".toList ++ Text.quoted kind.toList ++ " is not iterable".toList
  | textSection => "string indices must be integers, not 'str'".toList
  | arraySection => "list indices must be integers or slices, not str".toList
  | document failure => failure.message
  | file fault => fault.message

/-! ## Entries of the configuration -/

/-- An entry as an integer. Fractions are cut off. -/
def Toml.Value.toInteger : Toml.Value → Except SettingsFault Int
  | .integer value => .ok value
  | .boolean value => .ok (if value then 1 else 0)
  | .string text =>
      match Spelled.entry text with
      | .ok value => .ok value
      | .error .notInteger => .error (.notIntegerText text)
      | .error (.tooLong digits) => .error (.tooLong digits)
  | .float .nan => .error .notNumber
  | .float number =>
      match number.truncate? with
      | some value => .ok value
      | none => .error .infinite
  | value => .error (.notInteger value.kind)

/-- An entry as a text, in which numbers are written with their digits. -/
def Toml.Value.writtenText (value : Toml.Value) : Except SettingsFault Text :=
  if value.isWritable then .ok value.text else .error .unwritable

/-- The entry of a section, if it has one. A section that is not a table has none, as long as the
name does not occur in it. -/
def sectionEntry? (configuration : Toml.Members) (section_ entry : String) :
    Except SettingsFault (Option Toml.Value) :=
  match configuration.lookup section_.toList with
  | none => .ok none
  | some (.table members) => .ok (members.lookup entry.toList)
  | some (.string text) => if text.contains entry then .error .textSection else .ok none
  | some (.array items) =>
      let isEntry : Toml.Value → Bool
        | .string text => text == entry.toList
        | _ => false
      if items.any isEntry then .error .arraySection else .ok none
  | some value => .error (.noSection value.kind)

/-- What a configuration file says about the settings. -/
structure Configured where
  maxChunkSize : Option Int := none
  chunkOverlap : Option Int := none
  minChunkSize : Option Int := none
  preserveSignatures : Option Bool := none
  calculateComplexity : Option Bool := none
  logLevel : Option Text := none

/-- What the members of a configuration file say about the settings. -/
def Configured.ofMembers (configuration : Toml.Members) : Except SettingsFault Configured := do
  let integer? (entry : String) : Except SettingsFault (Option Int) := do
    match ← sectionEntry? configuration "chunking" entry with
    | none => return none
    | some value => return some (← value.toInteger)
  let switch? (entry : String) : Except SettingsFault (Option Bool) := do
    return (← sectionEntry? configuration "chunking" entry).map (·.isOn)
  let maxChunkSize ← integer? "max_chunk_size"
  let chunkOverlap ← integer? "overlap"
  let minChunkSize ← integer? "min_chunk_size"
  let preserveSignatures ← switch? "preserve_signatures"
  let calculateComplexity ← switch? "calculate_complexity"
  let logLevel ← (← sectionEntry? configuration "logging" "level").mapM (·.writtenText)
  return { maxChunkSize, chunkOverlap, minChunkSize, preserveSignatures, calculateComplexity
           logLevel }

/-! ## The environment -/

/-- Variables with their values. -/
abbrev Environment := List (Text × Text)

/-- The value of the setting with the given name. The case of a variable's name does not matter; of
several variables the last one counts. -/
def Environment.setting? (environment : Environment) (name : String) : Option Text :=
  let variable_ : Text := "smartchunk_".toList ++ name.toList
  (environment.reverse.find? fun entry => entry.1.map lowerCase == variable_).map (·.2)

/-! ## Loading -/

/-- The environment variable that names the configuration file. -/
def configurationVariable : String := "SMARTCHUNK_CONFIG_PATH"

/-- The configuration file that is read when no other is named. -/
def standardConfiguration : String := "smartchunk_settings.toml"

/-- The first of several paths at which a file is. -/
def firstFile? (folder : Folder) : List Path → Except FileFault (Option Path)
  | [] => .ok none
  | path :: others =>
      match folder.find path with
      | .ok _ => .ok (some path)
      | .error .nameTooLong => .error ⟨.nameTooLong, path⟩
      | .error _ => firstFile? folder others

/-- The path of the configuration file, if there is one: the one that the environment names if it is
a file, else the standard one. -/
def configurationPath? (environment : Environment) (folder : Folder) :
    Except FileFault (Option Path) :=
  let named :=
    match environment.lookup configurationVariable.toList with
    | some (character :: rest) => [Path.ofText (character :: rest)]
    | _ => []
  firstFile? folder (named ++ [Path.ofText standardConfiguration.toList])

/-- The members of the configuration file, none when there is no file. -/
def configuration (environment : Environment) (folder : Folder) :
    Except SettingsFault Toml.Members := do
  match ← (configurationPath? environment folder).mapError .file with
  | none => return []
  | some path =>
      let bytes ← (folder.read path).mapError .file
      (Toml.readBytes bytes).mapError .document

namespace Settings

/-- The settings when nothing is said. -/
def standard : Settings := {}

/-- The settings from what a configuration file says, the environment and the defaults. -/
def ofSources (configured : Configured) (environment : Environment) :
    Except SettingsFault Settings :=
  let given (name : String) := (environment.setting? name).map FieldInput.text
  let integer (name : String) (value : Option Int) (default_ : Int) :=
    integerField name .free default_ ((value.map .integer).or (given name))
  let switch (name : String) (value : Option Bool) (default_ : Bool) :=
    booleanField name default_ ((value.map .flag).or (given name))
  let maxChunkSize := integer "max_chunk_size" configured.maxChunkSize standard.maxChunkSize
  let chunkOverlap := integer "chunk_overlap" configured.chunkOverlap standard.chunkOverlap
  let minChunkSize := integer "min_chunk_size" configured.minChunkSize standard.minChunkSize
  let preserveSignatures :=
    switch "preserve_signatures" configured.preserveSignatures standard.preserveSignatures
  let calculateComplexity :=
    switch "calculate_complexity" configured.calculateComplexity standard.calculateComplexity
  let logLevel :=
    (configured.logLevel.or (environment.setting? "log_level")).getD standard.logLevel
  match maxChunkSize, chunkOverlap, minChunkSize, preserveSignatures, calculateComplexity with
  | .ok maxChunkSize, .ok chunkOverlap, .ok minChunkSize, .ok preserveSignatures,
      .ok calculateComplexity =>
      .ok { maxChunkSize, chunkOverlap, minChunkSize, preserveSignatures, calculateComplexity
            logLevel }
  | _, _, _, _, _ =>
      .error (.fields (faultsOf maxChunkSize ++ faultsOf chunkOverlap ++ faultsOf minChunkSize ++
        faultsOf preserveSignatures ++ faultsOf calculateComplexity))

/-- The settings for an environment and the working folder. -/
def load (environment : Environment) (folder : Folder) : Except SettingsFault Settings := do
  let configured ← Configured.ofMembers (← configuration environment folder)
  ofSources configured environment

/-- The options for which settings stand. -/
def toOptions (settings : Settings) : Except OptionsFault Options :=
  Options.ofValues settings.maxChunkSize settings.chunkOverlap settings.minChunkSize
    settings.preserveSignatures settings.calculateComplexity

/-- The levels of logs by their names. -/
def levels : List (String × Nat) :=
  [("CRITICAL", 50), ("FATAL", 50), ("ERROR", 40), ("WARN", 30), ("WARNING", 30), ("INFO", 20),
    ("DEBUG", 10), ("NOTSET", 0)]

/-- The level that the settings name, in any case of letters. Unknown names stand for the level of
information. -/
def logLevelValue (settings : Settings) : Nat :=
  let name : Text := settings.logLevel.map upperCase
  ((levels.find? fun level => level.1.toList == name).map (·.2)).getD 20

end Settings

end Segmentation
