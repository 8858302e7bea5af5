import Segmentation.Proofs.Field
import Segmentation.Proofs.Outcome
import Segmentation.Settings

/-!
# Where settings come from

`Setting` names the settings, with the entry and the variable that belong to each and with what the
two are converted by. `Settled` is the rule for one setting: its entry if there is one, else its
variable, else its default. Settings that are loaded keep the rule for every setting, so that one
setting is not touched by what is said about another. `Reads` is the rule for the configuration
file, of which only one is read.
-/

namespace Segmentation

/-- The settings by their names. -/
inductive Setting where
  | maxChunkSize
  | chunkOverlap
  | minChunkSize
  | preserveSignatures
  | calculateComplexity
  | logLevel
  deriving DecidableEq, Repr

namespace Setting

/-- The values of a setting. -/
abbrev Value : Setting → Type
  | maxChunkSize | chunkOverlap | minChunkSize => Int
  | preserveSignatures | calculateComplexity => Bool
  | logLevel => Text

/-- The table of the configuration that has the entry of a setting. -/
def table : Setting → String
  | maxChunkSize | chunkOverlap | minChunkSize | preserveSignatures | calculateComplexity =>
      "chunking"
  | logLevel => "logging"

/-- The name of the entry of a setting. -/
def entryName : Setting → String
  | maxChunkSize => "max_chunk_size"
  | chunkOverlap => "overlap"
  | minChunkSize => "min_chunk_size"
  | preserveSignatures => "preserve_signatures"
  | calculateComplexity => "calculate_complexity"
  | logLevel => "level"

/-- The name of the variable of a setting, in lower case and without the common beginning. -/
def variableName : Setting → String
  | maxChunkSize => "max_chunk_size"
  | chunkOverlap => "chunk_overlap"
  | minChunkSize => "min_chunk_size"
  | preserveSignatures => "preserve_signatures"
  | calculateComplexity => "calculate_complexity"
  | logLevel => "log_level"

/-- The name of the variable of a setting, in lower case. -/
def variableKey (setting : Setting) : Text :=
  "smartchunk_".toList ++ setting.variableName.toList

/-- The value of a setting when nothing is said. -/
def default_ : (setting : Setting) → setting.Value
  | maxChunkSize => (4000 : Int)
  | chunkOverlap => (200 : Int)
  | minChunkSize => (500 : Int)
  | preserveSignatures => true
  | calculateComplexity => true
  | logLevel => "INFO".toList

/-- The value that an entry stands for. -/
def ofEntry : (setting : Setting) → Toml.Value → Except SettingsFault setting.Value
  | maxChunkSize, value => value.toInteger
  | chunkOverlap, value => value.toInteger
  | minChunkSize, value => value.toInteger
  | preserveSignatures, value => .ok value.isOn
  | calculateComplexity, value => .ok value.isOn
  | logLevel, value => value.writtenText

/-- The value that the text of a variable stands for. -/
def ofVariable : (setting : Setting) → Text → Except FieldProblem setting.Value
  | maxChunkSize, text => (FieldInput.text text).toInteger
  | chunkOverlap, text => (FieldInput.text text).toInteger
  | minChunkSize, text => (FieldInput.text text).toInteger
  | preserveSignatures, text => (FieldInput.text text).toBoolean
  | calculateComplexity, text => (FieldInput.text text).toBoolean
  | logLevel, text => .ok text

end Setting

/-- The value of a setting. -/
def Settings.value (settings : Settings) : (setting : Setting) → setting.Value
  | .maxChunkSize => settings.maxChunkSize
  | .chunkOverlap => settings.chunkOverlap
  | .minChunkSize => settings.minChunkSize
  | .preserveSignatures => settings.preserveSignatures
  | .calculateComplexity => settings.calculateComplexity
  | .logLevel => settings.logLevel

/-- What a configuration file says about a setting. -/
def Configured.value? (configured : Configured) : (setting : Setting) → Option setting.Value
  | .maxChunkSize => configured.maxChunkSize
  | .chunkOverlap => configured.chunkOverlap
  | .minChunkSize => configured.minChunkSize
  | .preserveSignatures => configured.preserveSignatures
  | .calculateComplexity => configured.calculateComplexity
  | .logLevel => configured.logLevel

/-- The entry of a table of the configuration. What is not a table has no entries. -/
def Toml.entry? (members : Toml.Members) (table name : String) : Option Toml.Value :=
  match members.lookup table.toList with
  | some (.table entries) => entries.lookup name.toList
  | _ => none

/-- The entry of a setting. -/
def Setting.entry? (setting : Setting) (members : Toml.Members) : Option Toml.Value :=
  Toml.entry? members setting.table setting.entryName

/-- The key is the name of the variable of a setting, in any case of letters. -/
def Setting.Names (setting : Setting) (key : Text) : Prop :=
  key.map lowerCase = setting.variableKey

/-- The variable of a setting has the text: the last one, of several with its name. -/
def Setting.IsSet (setting : Setting) (environment : Environment) (text : Text) : Prop :=
  ∃ before key after, environment = before ++ (key, text) :: after ∧ setting.Names key ∧
    ∀ later ∈ after, ¬ setting.Names later.1

/-- A setting has the value of its entry if there is one, else that of its variable if it is set,
else its default. -/
inductive Setting.Settled (setting : Setting) (members : Toml.Members)
    (environment : Environment) : setting.Value → Prop where
  | inConfiguration {given : Toml.Value} {value : setting.Value}
      (found : setting.entry? members = some given)
      (converted : setting.ofEntry given = .ok value) : Settled setting members environment value
  | inEnvironment {text : Text} {value : setting.Value} (noEntry : setting.entry? members = none)
      (isSet : setting.IsSet environment text) (converted : setting.ofVariable text = .ok value) :
      Settled setting members environment value
  | byDefault (noEntry : setting.entry? members = none)
      (unset : ∀ text, ¬ setting.IsSet environment text) :
      Settled setting members environment setting.default_

/-- The configuration file that the environment names. -/
def namedConfiguration? (environment : Environment) : Option Path :=
  match environment.lookup configurationVariable.toList with
  | some (character :: rest) => some (.ofText (character :: rest))
  | _ => none

/-- The configuration file that is read when no other is named. -/
def standardPath : Path :=
  .ofText standardConfiguration.toList

/-- The members of the one configuration file that is read: the named one if it is a file, else the
standard one. There are none when neither is a file. -/
inductive Reads (environment : Environment) (folder : Folder) : Toml.Members → Prop where
  | named {path : Path} {bytes : List UInt8} {members : Toml.Members}
      (named : namedConfiguration? environment = some path) (file : folder.find path = .ok bytes)
      (document : Toml.readBytes bytes = .ok members) : Reads environment folder members
  | standard {bytes : List UInt8} {members : Toml.Members}
      (noNamed : ∀ path ∈ namedConfiguration? environment, ¬ folder.isFile path)
      (file : folder.find standardPath = .ok bytes)
      (document : Toml.readBytes bytes = .ok members) : Reads environment folder members
  | nothing (noNamed : ∀ path ∈ namedConfiguration? environment, ¬ folder.isFile path)
      (noStandard : ¬ folder.isFile standardPath) : Reads environment folder []

/-- The places where a configuration file is looked for: the named one and, if it is not a file, the
standard one. -/
inductive Consulted (environment : Environment) (folder : Folder) : Path → Prop where
  | named {path : Path} (named : namedConfiguration? environment = some path) :
      Consulted environment folder path
  | standard (noNamed : ∀ path ∈ namedConfiguration? environment, ¬ folder.isFile path) :
      Consulted environment folder standardPath

/-! ## The environment -/

section

variable {setting : Setting} {environment : Environment} {text : Text}

theorem Environment.setting?_eq :
    environment.setting? setting.variableName =
      (environment.reverse.find? fun entry => entry.1.map lowerCase == setting.variableKey).map
        (·.2) :=
  rfl

theorem Environment.setting?_eq_some_iff :
    environment.setting? setting.variableName = some text ↔ setting.IsSet environment text := by
  rw [setting?_eq, Option.map_eq_some_iff]
  constructor
  · rintro ⟨⟨key, _⟩, found, rfl⟩
    obtain ⟨named, after, before, split, unnamed⟩ := List.find?_eq_some_iff_append.1 found
    refine ⟨before.reverse, key, after.reverse, ?_, beq_iff_eq.1 named, ?_⟩
    · simpa using congrArg List.reverse split
    · intro later member
      simpa [Setting.Names] using unnamed later (List.mem_reverse.1 member)
  · rintro ⟨before, key, after, rfl, named, unnamed⟩
    refine ⟨(key, text), List.find?_eq_some_iff_append.2 ⟨beq_iff_eq.2 named, after.reverse,
      before.reverse, by simp, ?_⟩, rfl⟩
    intro later member
    simpa [Setting.Names] using unnamed later (List.mem_reverse.1 member)

theorem Environment.setting?_eq_none_iff :
    environment.setting? setting.variableName = none ↔
      ∀ text, ¬ setting.IsSet environment text := by
  simp only [← setting?_eq_some_iff, Option.eq_none_iff_forall_ne_some, ne_eq]

end

/-! ## The configuration -/

section

variable {members : Toml.Members} {configured : Configured}

/-- An entry that can be looked up is that of a table: anything else in the place of the table that
the look-up passes over has no entries. -/
theorem Toml.entry?_of_sectionEntry? {table name : String} {found : Option Toml.Value}
    (read : sectionEntry? members table name = .ok found) :
    Toml.entry? members table name = found := by
  unfold sectionEntry? at read
  unfold Toml.entry?
  split at read
  case h_1 absent =>
    cases read
    rw [absent]
  case h_2 entries present =>
    cases read
    rw [present]
  case h_3 text present =>
    rw [present]
    split at read
    · cases read
    · cases read
      rfl
  case h_4 items present =>
    rw [present]
    dsimp only at read
    split at read
    · cases read
    · cases read
      rfl
  case h_5 => cases read

/-- An entry that is looked up and then converted, if it is there, is the entry converted. -/
theorem Toml.mapM_entry?_of_read {α : Type} {table name : String} {value : Option α}
    {convert : Toml.Value → Except SettingsFault α}
    {next : Option Toml.Value → Except SettingsFault (Option α)}
    (read : sectionEntry? members table name >>= next = .ok value) (absent : next none = .ok none)
    (present : ∀ given, next (some given) = some <$> convert given) :
    (Toml.entry? members table name).mapM convert = .ok value := by
  obtain ⟨found, entry, read⟩ := bind_eq_ok.1 read
  rw [Toml.entry?_of_sectionEntry? entry]
  cases found with
  | none =>
      rw [absent] at read
      exact read
  | some given =>
      rw [present] at read
      exact read

theorem Configured.value?_of_ofMembers (read : Configured.ofMembers members = .ok configured)
    (setting : Setting) :
    (setting.entry? members).mapM setting.ofEntry = .ok (configured.value? setting) := by
  simp only [Configured.ofMembers] at read
  obtain ⟨maxChunkSize, maxChunkSizeRead, read⟩ := bind_eq_ok.1 read
  obtain ⟨chunkOverlap, chunkOverlapRead, read⟩ := bind_eq_ok.1 read
  obtain ⟨minChunkSize, minChunkSizeRead, read⟩ := bind_eq_ok.1 read
  obtain ⟨preserveSignatures, preserveSignaturesRead, read⟩ := bind_eq_ok.1 read
  obtain ⟨calculateComplexity, calculateComplexityRead, read⟩ := bind_eq_ok.1 read
  obtain ⟨level, levelRead, read⟩ := bind_eq_ok.1 read
  obtain ⟨logLevel, logLevelRead, read⟩ := bind_eq_ok.1 read
  cases read
  cases setting with
  | maxChunkSize => exact Toml.mapM_entry?_of_read maxChunkSizeRead rfl fun _ => rfl
  | chunkOverlap => exact Toml.mapM_entry?_of_read chunkOverlapRead rfl fun _ => rfl
  | minChunkSize => exact Toml.mapM_entry?_of_read minChunkSizeRead rfl fun _ => rfl
  | preserveSignatures =>
      exact Toml.mapM_entry?_of_read preserveSignaturesRead rfl fun _ => rfl
  | calculateComplexity =>
      exact Toml.mapM_entry?_of_read calculateComplexityRead rfl fun _ => rfl
  | logLevel =>
      rw [← Toml.entry?_of_sectionEntry? levelRead] at logLevelRead
      exact logLevelRead

end

/-! ## The sources together -/

section

variable {configured : Configured} {environment : Environment} {settings : Settings}

/-- The first value of three sources: one that is ready, a text that is to be converted, and a
default. -/
def firstOf {ε α : Type} (ready : Option α) (text : Option Text) (convert : Text → Except ε α)
    (default_ : α) : Except ε α :=
  match ready, text with
  | some value, _ => .ok value
  | none, some text => convert text
  | none, none => .ok default_

/-- The value of a setting from what a configuration file says and from the environment. -/
def Configured.chosen (configured : Configured) (environment : Environment) (setting : Setting) :
    Except FieldProblem setting.Value :=
  firstOf (configured.value? setting) (environment.setting? setting.variableName)
    setting.ofVariable setting.default_

theorem integerField_sources_eq_ok_iff {name : String} {default_ value : Int} {ready : Option Int}
    {text : Option Text} :
    integerField name .free default_ ((ready.map .integer).or (text.map .text)) = .ok value ↔
      firstOf ready text (fun text => (FieldInput.text text).toInteger) default_ = .ok value := by
  cases ready with
  | some given => simp [firstOf, integerField_integer_eq_ok_iff, Bound.Allows]
  | none =>
      cases text with
      | some text => simp [firstOf, integerField_some_eq_ok_iff, Bound.Allows]
      | none => simp [firstOf, integerField]

theorem booleanField_sources_eq_ok_iff {name : String} {default_ value : Bool}
    {ready : Option Bool} {text : Option Text} :
    booleanField name default_ ((ready.map .flag).or (text.map .text)) = .ok value ↔
      firstOf ready text (fun text => (FieldInput.text text).toBoolean) default_ = .ok value := by
  cases ready with
  | some given => simp [firstOf, booleanField_some_eq_ok_iff, FieldInput.toBoolean]
  | none =>
      cases text with
      | some text => simp [firstOf, booleanField_some_eq_ok_iff]
      | none => simp [firstOf, booleanField]

theorem firstOf_ok_eq_ok_iff {ε : Type} {ready text : Option Text} {default_ value : Text} :
    firstOf ready text (fun text => (.ok text : Except ε Text)) default_ = .ok value ↔
      (ready.or text).getD default_ = value := by
  cases ready <;> cases text <;> simp [firstOf]

theorem Settings.chosen_of_ofSources (made : ofSources configured environment = .ok settings) :
    ∀ setting, configured.chosen environment setting = .ok (settings.value setting) := by
  unfold ofSources at made
  dsimp only at made
  split at made
  case h_1 maxChunkSize chunkOverlap minChunkSize preserveSignatures calculateComplexity =>
    cases made
    intro setting
    cases setting with
    | maxChunkSize => exact integerField_sources_eq_ok_iff.1 maxChunkSize
    | chunkOverlap => exact integerField_sources_eq_ok_iff.1 chunkOverlap
    | minChunkSize => exact integerField_sources_eq_ok_iff.1 minChunkSize
    | preserveSignatures => exact booleanField_sources_eq_ok_iff.1 preserveSignatures
    | calculateComplexity => exact booleanField_sources_eq_ok_iff.1 calculateComplexity
    | logLevel => exact firstOf_ok_eq_ok_iff.2 rfl
  case h_2 => cases made

theorem Settings.exists_ofSources
    (chosen : ∀ setting, configured.chosen environment setting = .ok (settings.value setting)) :
    ∃ settings', ofSources configured environment = .ok settings' := by
  unfold ofSources
  dsimp only
  split
  case h_1 => exact ⟨_, rfl⟩
  case h_2 refused =>
    exact (refused _ _ _ _ _ (integerField_sources_eq_ok_iff.2 (chosen .maxChunkSize))
      (integerField_sources_eq_ok_iff.2 (chosen .chunkOverlap))
      (integerField_sources_eq_ok_iff.2 (chosen .minChunkSize))
      (booleanField_sources_eq_ok_iff.2 (chosen .preserveSignatures))
      (booleanField_sources_eq_ok_iff.2 (chosen .calculateComplexity))).elim

theorem Settings.ext_value {settings settings' : Settings}
    (same : ∀ setting, settings.value setting = settings'.value setting) :
    settings = settings' := by
  cases settings
  cases settings'
  congr
  · exact same .maxChunkSize
  · exact same .chunkOverlap
  · exact same .minChunkSize
  · exact same .preserveSignatures
  · exact same .calculateComplexity
  · exact same .logLevel

/-- Settings are made from the sources exactly when each has the value that is chosen for it. -/
theorem Settings.ofSources_eq_ok_iff :
    ofSources configured environment = .ok settings ↔
      ∀ setting, configured.chosen environment setting = .ok (settings.value setting) := by
  constructor
  · exact chosen_of_ofSources
  · intro chosen
    obtain ⟨settings', made⟩ := exists_ofSources chosen
    have same : settings' = settings := by
      apply ext_value
      intro setting
      have value := chosen_of_ofSources made setting
      rw [chosen setting] at value
      exact (Except.ok.inj value).symm
    rw [made, same]

end

/-! ## The configuration file -/

section

variable {environment environment' : Environment} {folder folder' : Folder} {path : Path}

theorem configurationPath?_eq :
    configurationPath? environment folder =
      firstFile? folder ((namedConfiguration? environment).toList ++ [standardPath]) := by
  unfold configurationPath? namedConfiguration?
  cases environment.lookup configurationVariable.toList with
  | none => rfl
  | some text =>
      cases text with
      | nil => rfl
      | cons character rest => rfl

theorem isFile_of_find {bytes : List UInt8} (file : folder.find path = .ok bytes) :
    folder.isFile path = true := by
  simp [Folder.isFile, file, Except.isOk, Except.toBool]

theorem isFile_eq_false_of_find {problem : FileProblem}
    (noFile : folder.find path = .error problem) : folder.isFile path = false := by
  simp [Folder.isFile, noFile, Except.isOk, Except.toBool]

theorem firstFile?_eq_ok {paths : List Path} {found : Option Path}
    (searched : firstFile? folder paths = .ok found) : found = paths.find? folder.isFile := by
  induction paths with
  | nil =>
      cases searched
      rfl
  | cons path others ih =>
      cases place : folder.find path with
      | ok bytes =>
          simp only [firstFile?, place] at searched
          cases searched
          simp [isFile_of_find place]
      | error problem =>
          rw [List.find?_cons, isFile_eq_false_of_find place]
          apply ih
          cases problem with
          | nameTooLong => simp [firstFile?, place] at searched
          | missing | isFolder | throughFile | taken | nullCharacter =>
              simpa only [firstFile?, place] using searched

/-- A file that is found is one of the places where a configuration file is looked for. -/
theorem consulted_of_find?
    (found : ((namedConfiguration? environment).toList ++ [standardPath]).find? folder.isFile =
      some path) :
    Consulted environment folder path := by
  cases named : namedConfiguration? environment with
  | none =>
      rw [named] at found
      rw [List.mem_singleton.1 (List.mem_of_find?_eq_some found)]
      exact .standard (by simp [named])
  | some path' =>
      rw [named, Option.toList_some, List.singleton_append, List.find?_cons] at found
      cases isFile : folder.isFile path' with
      | true =>
          rw [isFile] at found
          cases found
          exact .named named
      | false =>
          rw [isFile] at found
          rw [List.mem_singleton.1 (List.mem_of_find?_eq_some found)]
          exact .standard (by simp [named, isFile])

/-- A configuration that can be had is the content of the one file that is read. -/
theorem reads_of_configuration {members : Toml.Members}
    (read : configuration environment folder = .ok members) :
    Reads environment folder members := by
  simp only [configuration] at read
  obtain ⟨found, searched, read⟩ := bind_eq_ok.1 read
  rw [mapError_eq_ok, configurationPath?_eq] at searched
  have found_eq := firstFile?_eq_ok searched
  cases found with
  | none =>
      cases read
      have noFile := List.find?_eq_none.1 found_eq.symm
      apply Reads.nothing
      · intro path named
        exact noFile path (by simp [Option.mem_def.1 named])
      · exact noFile standardPath (by simp)
  | some path =>
      obtain ⟨bytes, file, document⟩ := bind_eq_ok.1 read
      rw [Folder.read, mapError_eq_ok, mapError_eq_ok] at file
      rw [mapError_eq_ok] at document
      cases consulted_of_find? found_eq.symm with
      | named named => exact .named named file document
      | standard noNamed => exact .standard noNamed file document

theorem Reads.unique {members members' : Toml.Members} (reads : Reads environment folder members)
    (reads' : Reads environment folder members') : members = members' := by
  cases reads with
  | named named file document =>
      cases reads' with
      | named named' file' document' =>
          cases named.symm.trans named'
          cases file.symm.trans file'
          exact Except.ok.inj (document.symm.trans document')
      | standard noNamed | nothing noNamed =>
          exact absurd (isFile_of_find file) (noNamed _ named)
  | standard noNamed file document =>
      cases reads' with
      | named named' file' => exact absurd (isFile_of_find file') (noNamed _ named')
      | standard _ file' document' =>
          cases file.symm.trans file'
          exact Except.ok.inj (document.symm.trans document')
      | nothing _ noStandard => exact absurd (isFile_of_find file) noStandard
  | nothing noNamed noStandard =>
      cases reads' with
      | named named' file' => exact absurd (isFile_of_find file') (noNamed _ named')
      | standard _ file' => exact absurd (isFile_of_find file') noStandard
      | nothing => rfl

theorem firstFile?_cons_congr {others : List Path} (same : folder'.find path = folder.find path)
    (rest : ¬ folder.isFile path → firstFile? folder' others = firstFile? folder others) :
    firstFile? folder' (path :: others) = firstFile? folder (path :: others) := by
  cases place : folder.find path with
  | ok bytes => simp only [firstFile?, same, place]
  | error problem =>
      have rest := rest (by simp [isFile_eq_false_of_find place])
      cases problem <;> simp only [firstFile?, same, place, rest]

/-- Only the places where it is looked for matter to a configuration. -/
theorem configuration_congr
    (same : ∀ path, Consulted environment folder path → folder'.find path = folder.find path) :
    configuration environment folder' = configuration environment folder := by
  have searched :
      firstFile? folder' ((namedConfiguration? environment).toList ++ [standardPath]) =
        firstFile? folder ((namedConfiguration? environment).toList ++ [standardPath]) := by
    have standard (noNamed : ∀ path ∈ namedConfiguration? environment, ¬ folder.isFile path) :
        firstFile? folder' [standardPath] = firstFile? folder [standardPath] :=
      firstFile?_cons_congr (same _ (.standard noNamed)) fun _ => rfl
    cases named : namedConfiguration? environment with
    | none => exact standard (by simp [named])
    | some path =>
        apply firstFile?_cons_congr (same path (.named named))
        intro noFile
        exact standard (by simpa [named] using noFile)
  simp only [configuration, configurationPath?_eq, searched]
  cases found : firstFile? folder ((namedConfiguration? environment).toList ++ [standardPath]) with
  | error fault => rfl
  | ok place =>
      cases place with
      | none => rfl
      | some path =>
          have consulted := consulted_of_find? (firstFile?_eq_ok found).symm
          simp only [Except.mapError, bind, Except.bind, Folder.read, same path consulted]

/-- Of the environment, only the name of the file matters to a configuration. -/
theorem configuration_congr_environment
    (same : namedConfiguration? environment' = namedConfiguration? environment) :
    configuration environment' folder = configuration environment folder := by
  simp only [configuration, configurationPath?_eq, same]

end

/-! ## Settings that are loaded -/

section

variable {members members' : Toml.Members} {configured : Configured}
variable {environment environment' : Environment} {setting : Setting}

theorem Configured.value?_eq_none (read : Configured.ofMembers members = .ok configured)
    (noEntry : setting.entry? members = none) : configured.value? setting = none := by
  have entry := Configured.value?_of_ofMembers read setting
  rw [noEntry] at entry
  exact (Except.ok.inj entry).symm

theorem Configured.exists_value? {given : Toml.Value}
    (read : Configured.ofMembers members = .ok configured)
    (found : setting.entry? members = some given) :
    ∃ value, setting.ofEntry given = .ok value ∧ configured.value? setting = some value := by
  have entry := Configured.value?_of_ofMembers read setting
  rw [found, Option.mapM_some, map_eq_ok] at entry
  obtain ⟨value, converted, equal⟩ := entry
  exact ⟨value, converted, equal.symm⟩

/-- A setting is settled on the value that is chosen for it. -/
theorem Setting.settled_iff {value : setting.Value}
    (read : Configured.ofMembers members = .ok configured) :
    setting.Settled members environment value ↔
      configured.chosen environment setting = .ok value := by
  constructor
  · intro settled
    cases settled with
    | inConfiguration found converted =>
        obtain ⟨value', converted', ready⟩ := Configured.exists_value? read found
        cases converted.symm.trans converted'
        simp only [Configured.chosen, ready, firstOf]
    | inEnvironment noEntry isSet converted =>
        have ready := Configured.value?_eq_none read noEntry
        simp only [Configured.chosen, ready, Environment.setting?_eq_some_iff.2 isSet, firstOf,
          converted]
    | byDefault noEntry unset =>
        have ready := Configured.value?_eq_none read noEntry
        simp only [Configured.chosen, ready, Environment.setting?_eq_none_iff.2 unset, firstOf]
  · intro chosen
    cases found : setting.entry? members with
    | some given =>
        obtain ⟨value', converted, ready⟩ := Configured.exists_value? read found
        simp only [Configured.chosen, ready, firstOf] at chosen
        cases chosen
        exact .inConfiguration found converted
    | none =>
        have ready := Configured.value?_eq_none read found
        cases isSet : environment.setting? setting.variableName with
        | some text =>
            simp only [Configured.chosen, ready, isSet, firstOf] at chosen
            exact .inEnvironment found (Environment.setting?_eq_some_iff.1 isSet) chosen
        | none =>
            simp only [Configured.chosen, ready, isSet, firstOf] at chosen
            cases chosen
            exact .byDefault found (Environment.setting?_eq_none_iff.1 isSet)

/-- Only the entry of a setting and, where it has none, its variable matter to it. -/
theorem Setting.Settled.congr {value : setting.Value}
    (sameEntry : setting.entry? members' = setting.entry? members)
    (sameVariable : setting.entry? members = none →
      ∀ text, setting.IsSet environment' text ↔ setting.IsSet environment text)
    (settled : setting.Settled members environment value) :
    setting.Settled members' environment' value := by
  cases settled with
  | inConfiguration found converted => exact .inConfiguration (sameEntry.trans found) converted
  | inEnvironment noEntry isSet converted =>
      exact .inEnvironment (sameEntry.trans noEntry) ((sameVariable noEntry _).2 isSet) converted
  | byDefault noEntry unset =>
      apply Setting.Settled.byDefault (sameEntry.trans noEntry)
      intro text isSet
      exact unset text ((sameVariable noEntry text).1 isSet)

/-- Settings that are loaded come from the configuration file that is read. -/
theorem Settings.exists_configured {folder : Folder} {settings : Settings}
    (loaded : load environment folder = .ok settings) :
    ∃ members configured, configuration environment folder = .ok members ∧
      Configured.ofMembers members = .ok configured ∧
      ofSources configured environment = .ok settings := by
  obtain ⟨members, read, loaded⟩ := bind_eq_ok.1 loaded
  obtain ⟨configured, entries, made⟩ := bind_eq_ok.1 loaded
  exact ⟨members, configured, read, entries, made⟩

end

/-- Settings that come from the members of the one configuration file that is read, and from an
environment. Each setting keeps the rule. One with the same entry and, where it has none, the same
variable has the same value whatever else is said. Variables of settings that have entries do not
matter at all, be they what they may, and no more do files other than those that are looked for. -/
structure Settings.LoadedFrom (environment : Environment) (folder : Folder)
    (members : Toml.Members) (settings : Settings) : Prop where
  reads : Reads environment folder members
  settled : ∀ setting : Setting, setting.Settled members environment (settings.value setting)
  own_sources : ∀ environment' folder' members' settings',
    load environment' folder' = .ok settings' → Reads environment' folder' members' →
    ∀ setting : Setting, setting.entry? members' = setting.entry? members →
      (setting.entry? members = none →
        ∀ text, setting.IsSet environment' text ↔ setting.IsSet environment text) →
      settings'.value setting = settings.value setting
  other_variables : ∀ environment',
    namedConfiguration? environment' = namedConfiguration? environment →
    (∀ setting : Setting, setting.entry? members = none →
      ∀ text, setting.IsSet environment' text ↔ setting.IsSet environment text) →
    load environment' folder = .ok settings
  other_files : ∀ folder', (∀ path, Consulted environment folder path →
    folder'.find path = folder.find path) → load environment folder' = .ok settings

/-- Settings that can be loaded are settled one by one. -/
theorem Settings.load_settled {environment : Environment} {folder : Folder} {settings : Settings}
    (loaded : load environment folder = .ok settings) :
    ∃ members, settings.LoadedFrom environment folder members := by
  obtain ⟨members, configured, read, entries, made⟩ := exists_configured loaded
  have settled (setting : Setting) :
      setting.Settled members environment (settings.value setting) :=
    (Setting.settled_iff entries).2 (ofSources_eq_ok_iff.1 made setting)
  refine ⟨members, reads_of_configuration read, settled, ?own, ?others, ?files⟩
  case own =>
    intro environment' folder' members' settings' loaded' reads' setting sameEntry sameVariable
    obtain ⟨members'', configured', read', entries', made'⟩ := exists_configured loaded'
    cases (reads_of_configuration read').unique reads'
    have chosen := (Setting.settled_iff entries').1 ((settled setting).congr sameEntry sameVariable)
    rw [ofSources_eq_ok_iff.1 made' setting] at chosen
    exact Except.ok.inj chosen
  case others =>
    intro environment' sameFile sameVariables
    have chosen (setting : Setting) :
        configured.chosen environment' setting = .ok (settings.value setting) :=
      (Setting.settled_iff entries).1 ((settled setting).congr rfl (sameVariables setting))
    simp only [load, configuration_congr_environment sameFile, read, bind, Except.bind, entries,
      ofSources_eq_ok_iff.2 chosen]
  case files =>
    intro folder' sameFiles
    simp only [load, configuration_congr sameFiles, read, bind, Except.bind, entries, made]

/-- Variables of which the first, whose value is no integer, stands behind an entry. -/
def mixedVariables : Environment :=
  [("Smartchunk_Max_Chunk_Size".toList, "many".toList),
    ("SMARTCHUNK_CHUNK_OVERLAP".toList, "50".toList)]

/-- A folder with nothing but the standard configuration file. -/
def configuredFolder : Folder :=
  .ofFiles [(standardPath, Text.utf8 "[chunking]\nmax_chunk_size = 300.9\n".toList)]

theorem Settings.load_settled_mixedVariables :
    load mixedVariables configuredFolder = .ok { maxChunkSize := 300, chunkOverlap := 50 } ∧
      (∃ members, Reads mixedVariables configuredFolder members ∧
        (Setting.maxChunkSize).Settled members mixedVariables (300 : Int)) ∧
      ∀ folder', (∀ path, Consulted mixedVariables configuredFolder path →
          folder'.find path = configuredFolder.find path) →
        load mixedVariables folder' = .ok { maxChunkSize := 300, chunkOverlap := 50 } := by
  have loaded : load mixedVariables configuredFolder =
      .ok { maxChunkSize := 300, chunkOverlap := 50 } :=
    eq_ok_of_toOption (by decide +kernel)
  obtain ⟨members, loadedFrom⟩ := load_settled loaded
  exact ⟨loaded, ⟨members, loadedFrom.reads, loadedFrom.settled .maxChunkSize⟩,
    loadedFrom.other_files⟩

end Segmentation
