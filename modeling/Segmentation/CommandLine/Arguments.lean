import Segmentation.Text.Basic

/-!
# Command line arguments

Arguments are options of a command and operands, in any order. An option is spelled by a long name
after two dashes or by a letter after one. Its value is the next argument, or follows an equals sign
after a long name, or follows a letter at once. Two dashes alone end the options.
-/

namespace Segmentation.CommandLine

/-- Why a command line is refused. -/
inductive UsageFault where
  | noCommand
  | unknownCommand (name : Text)
  | unknownOption (name : Text)
  | missingValue (option : Text)
  | unwantedValue (option : Text)
  | missingOperand
  | extraOperand (operand : Text)
  | notInteger (text : Text)
  | tooSmall (value least : Int)
  /-- A path holds a null character. -/
  | nullCharacter (path : Text)
  /-- The operand names no file. -/
  | noFile (path : Text)
  /-- The values of the options do not fit together. -/
  | options (message : Text)
  deriving DecidableEq, Repr

/-- The wording of a fault. -/
def UsageFault.message : UsageFault → Text
  | noCommand => "Missing command.".toList
  | unknownCommand name => "No such command '".toList ++ name ++ "'.".toList
  | unknownOption name => "No such option: ".toList ++ name
  | missingValue option => "Option '".toList ++ option ++ "' requires an argument.".toList
  | unwantedValue option => "Option '".toList ++ option ++ "' does not take a value.".toList
  | missingOperand => "Missing argument 'PATH'.".toList
  | extraOperand operand => "Got unexpected extra argument (".toList ++ operand ++ [')']
  | notInteger text => "'".toList ++ text ++ "' is not a valid integer.".toList
  | tooSmall value least =>
      Text.ofInt value ++ " is not in the range x>=".toList ++ Text.ofInt least ++ ['.']
  | nullCharacter path => "'".toList ++ path ++ "' is not a path.".toList
  | noFile path => "'".toList ++ path ++ "' is not a file.".toList
  | options message => message

/-- What an option says about settings of type `α`. -/
inductive OptionUse (α : Type) where
  /-- It stands alone. -/
  | alone (setting : α)
  /-- It takes a value. -/
  | valued (setting : Text → α)

/-- The options of a command: by their long names, and by the letters of those that take values. -/
structure OptionTable (α : Type) where
  long : List (String × OptionUse α) := []
  short : List (Char × (Text → α)) := []

/-- Arguments told apart. -/
structure Arguments (α : Type) where
  settings : List α := []
  operands : List Text := []

namespace Arguments

variable {α : Type}

/-- The arguments with one more setting before them. -/
def addSetting (setting : α) (arguments : Arguments α) : Arguments α :=
  { arguments with settings := setting :: arguments.settings }

/-- The arguments with one more operand before them. -/
def addOperand (operand : Text) (arguments : Arguments α) : Arguments α :=
  { arguments with operands := operand :: arguments.operands }

/-- What an argument turns out to be. -/
inductive Reading (α : Type) where
  | operand
  | setting (setting : α)
  /-- An option whose value is the next argument. -/
  | needsValue (setting : Text → α)

/-- Reads an argument that begins with two dashes. -/
def readLong (table : OptionTable α) (argument : Text) : Except UsageFault (Reading α) :=
  let name := Text.before "=" argument
  let value? :=
    if argument.length = name.length then none else some (argument.drop (name.length + 1))
  match table.long.find? (·.1.toList == name), value? with
  | none, _ => .error (.unknownOption name)
  | some (_, .alone setting), none => .ok (.setting setting)
  | some (_, .alone _), some _ => .error (.unwantedValue name)
  | some (_, .valued setting), none => .ok (.needsValue setting)
  | some (_, .valued setting), some value => .ok (.setting (setting value))

/-- Reads an argument that begins with one dash and a letter. -/
def readShort (table : OptionTable α) (letter : Char) (value : Text) :
    Except UsageFault (Reading α) :=
  match table.short.lookup letter with
  | none => .error (.unknownOption ['-', letter])
  | some setting =>
      .ok (if value.isEmpty then .needsValue setting else .setting (setting value))

/-- Reads an argument before the end of the options. A dash alone is an operand. -/
def read (table : OptionTable α) : Text → Except UsageFault (Reading α)
  | '-' :: '-' :: rest => readLong table ('-' :: '-' :: rest)
  | '-' :: letter :: value => readShort table letter value
  | _ => .ok .operand

/-- Tells the arguments of a command apart. -/
def ofTexts (table : OptionTable α) : List Text → Except UsageFault (Arguments α)
  | [] => .ok {}
  | argument :: rest =>
      if argument == "--".toList then .ok { operands := rest }
      else
        match read table argument with
        | .error fault => .error fault
        | .ok .operand => (ofTexts table rest).map (addOperand argument)
        | .ok (.setting setting) => (ofTexts table rest).map (addSetting setting)
        | .ok (.needsValue setting) =>
            match rest with
            | [] => .error (.missingValue argument)
            | value :: others => (ofTexts table others).map (addSetting (setting value))

end Arguments

end Segmentation.CommandLine
