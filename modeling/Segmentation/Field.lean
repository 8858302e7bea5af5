import Segmentation.Number.Nearest
import Segmentation.Number.Spelled

/-!
# Fields

A field as a caller gives it is loosely typed: whole numbers may come as text, as switches or as
fractions without a fractional part, and switches as words or as the numbers zero and one.
-/

namespace Segmentation

/-- A field as a caller gives it. -/
inductive FieldInput where
  | integer (value : Int)
  /-- A number that is written with a fraction or an exponent. -/
  | float (value : Binary64)
  | flag (value : Bool)
  | text (value : Text)
  /-- Anything that is neither a number nor a switch nor a text. -/
  | other
  deriving DecidableEq, Repr

/-- What is wrong with a field. -/
inductive FieldProblem where
  | notPositive
  | negative
  | notInteger
  | notIntegerText
  | fractional
  | notFinite
  | tooLarge
  | notBoolean
  | notBooleanText
  deriving DecidableEq, Repr

/-- The wording of a problem. -/
def FieldProblem.message : FieldProblem → String
  | notPositive => "Input should be greater than 0"
  | negative => "Input should be greater than or equal to 0"
  | notInteger => "Input should be a valid integer"
  | notIntegerText =>
      "Input should be a valid integer, unable to parse string as an integer"
  | fractional => "Input should be a valid integer, got a number with a fractional part"
  | notFinite => "Input should be a finite number"
  | tooLarge => "Unable to parse input string as an integer, exceeded maximum size"
  | notBoolean => "Input should be a valid boolean"
  | notBooleanText => "Input should be a valid boolean, unable to interpret input"

namespace FieldInput

/-- The magnitude below which fractions without a fractional part count as integers, the 63rd power
of two. -/
def machineLimit : Int := 9223372036854775808

/-- A number as an integer. -/
def integerOfFloat (number : Binary64) : Except FieldProblem Int :=
  match number, number.integer? with
  | .finite .., some value =>
      if -machineLimit < value ∧ value < machineLimit then .ok value else .error .tooLarge
  | .finite .., none => .error .fractional
  | _, _ => .error .notFinite

/-- The integer that a text spells. -/
def integerOfText (text : Text) : Except FieldProblem Int :=
  match Spelled.field text with
  | .ok value => .ok value
  | .error .notInteger => .error .notIntegerText
  | .error (.tooLong _) => .error .tooLarge

/-- The field as an integer. -/
def toInteger : FieldInput → Except FieldProblem Int
  | integer value => .ok value
  | float value => integerOfFloat value
  | flag value => .ok (if value then 1 else 0)
  | text value => integerOfText value
  | other => .error .notInteger

/-- The words for a switch that is on. -/
def onWords : List String := ["1", "on", "t", "true", "y", "yes"]

/-- The words for a switch that is off. -/
def offWords : List String := ["0", "off", "f", "false", "n", "no"]

/-- The switch that an integer stands for. -/
def switchOfInteger (value : Int) : Except FieldProblem Bool :=
  if value = 0 then .ok false else if value = 1 then .ok true else .error .notBooleanText

/-- The field as a switch. -/
def toBoolean : FieldInput → Except FieldProblem Bool
  | flag value => .ok value
  | integer value =>
      if -machineLimit ≤ value ∧ value < machineLimit then switchOfInteger value
      else .error .notBoolean
  | float value =>
      match integerOfFloat value with
      | .ok value => switchOfInteger value
      | .error _ => .error .notBoolean
  | text value =>
      let word : Text := value.map Char.toLower
      if word.isOneOf onWords then .ok true
      else if word.isOneOf offWords then .ok false
      else .error .notBooleanText
  | other => .error .notBoolean

end FieldInput

/-- A bound that an integer field has to keep. -/
inductive Bound where
  | free
  | nonnegative
  | positive
  deriving DecidableEq, Repr

/-- The problem of a value that breaks the bound. -/
def Bound.problem? (bound : Bound) (value : Int) : Option FieldProblem :=
  match bound with
  | free => none
  | nonnegative => if value < 0 then some .negative else none
  | positive => if value ≤ 0 then some .notPositive else none

/-- Fields with their names and what is wrong with them. -/
abbrev FieldFaults := List (String × FieldProblem)

/-- The value of an integer field, or the default where it is not given. -/
def integerField (name : String) (bound : Bound) (default_ : Int) (input : Option FieldInput) :
    Except FieldFaults Int :=
  match input with
  | none => .ok default_
  | some given =>
      match given.toInteger with
      | .error problem => .error [(name, problem)]
      | .ok value =>
          match bound.problem? value with
          | some problem => .error [(name, problem)]
          | none => .ok value

/-- The value of a switch, or the default where it is not given. -/
def booleanField (name : String) (default_ : Bool) (input : Option FieldInput) :
    Except FieldFaults Bool :=
  match input with
  | none => .ok default_
  | some given =>
      match given.toBoolean with
      | .error problem => .error [(name, problem)]
      | .ok value => .ok value

/-- The faults of a field, none when it has a value. -/
def faultsOf {α : Type} : Except FieldFaults α → FieldFaults
  | .error faults => faults
  | .ok _ => []

/-- The faults of fields in one text. -/
def FieldFaults.message (faults : FieldFaults) : Text :=
  let texts := faults.map fun (name, problem) =>
    name.toList ++ ": ".toList ++ problem.message.toList
  (texts.intersperse "; ".toList).flatten

/-- What is wrong with fields in one text, in which the fields are not named. -/
def FieldFaults.wording (faults : FieldFaults) : Text :=
  ((faults.map fun fault => fault.2.message.toList).intersperse "; ".toList).flatten

end Segmentation
