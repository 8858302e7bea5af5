import Segmentation.Event
import Segmentation.Text.Quoted

/-!
# Logs

Where the events of a run go, and how they are written: as lines for people, or as JSON objects.
A log lets through the events that matter at least as much as its level; a console may ask for more.
-/

namespace Segmentation

/-! ## Writing events -/

namespace Event

/-- An event as a JSON object. -/
def toJson (event : Event) : Json :=
  .object (event.details ++
    [("event", .string event.name.toList), ("level", .string event.severity.label.toList),
      ("logger", .string event.logger.toList)])

/-- Whether a text has to stand in quotes on a console line: it holds blanks or marks that set the
details apart. -/
def needsQuotes (text : Text) : Bool :=
  text.any [' ', '\t', '=', '\r', '\n', '"', '\''].contains

/-- A detail's value on a console line. -/
def detailText : Json → Text
  | .string text => if needsQuotes text then text.quoted else text
  | value => value.compress

/-- A text filled up with spaces to the given length. -/
def padded (width : Nat) (text : String) : Text :=
  text.toList ++ List.replicate (width - text.length) ' '

/-- An event as a line for people: its severity, its name, where it comes from and its details. -/
def consoleLine (event : Event) : Text :=
  let details := event.details.flatMap fun (name, value) =>
    ' ' :: name.toList ++ '=' :: detailText value
  '[' :: padded 9 event.severity.label ++ "] ".toList ++ padded 30 event.name ++ " [".toList ++
    event.logger.toList ++ ']' :: details

end Event

/-! ## Logs -/

/-- What happens to the events that a log lets through. -/
inductive LogTarget where
  /-- Those that matter at least as much as the level go to the console. -/
  | console (level : Int)
  | nowhere
  deriving DecidableEq, Repr

/-- A level and a target. -/
structure Log where
  level : Int
  target : LogTarget
  deriving DecidableEq, Repr

/-- The number of a level that no log can have. -/
structure UnknownLevel where
  level : Int
  deriving DecidableEq, Repr

/-- The wording of a fault: the level itself. -/
def UnknownLevel.message (fault : UnknownLevel) : Text :=
  Text.ofInt fault.level

namespace Log

/-- The levels that a log may have. -/
def levels : List Int := [0, 10, 20, 30, 40, 50]

/-- The log with the given level. The console has the same level when it has none of its own. -/
def ofLevels (level : Int) (hasConsole : Bool) (consoleLevel : Option Int) :
    Except UnknownLevel Log :=
  if levels.contains level then
    .ok ⟨level, if hasConsole then .console (consoleLevel.getD level) else .nowhere⟩
  else .error ⟨level⟩

/-- Whether an event comes out of the log. -/
def shows (log : Log) (event : Event) : Bool :=
  match log.target with
  | .nowhere => false
  | .console level => log.level ≤ event.severity.rank && level ≤ event.severity.rank

/-- The lines that the events of a run leave on the console. -/
def consoleLines (log : Log) (events : List Event) : List Text :=
  (events.filter log.shows).map (·.consoleLine)

end Log

end Segmentation
