import Segmentation.Number.Shortest
import Segmentation.Number.Spelled
import Segmentation.Text.Quoted

/-!
# TOML values

The values of a TOML document, and how they are shown: as plain text, where a string stands for
itself, and as parts of a larger value, where strings are quoted and moments name their kind.
-/

namespace Segmentation.Toml

/-- A day of the calendar. -/
structure Date where
  year : Nat
  month : Nat
  day : Nat
  deriving DecidableEq, Repr

/-- A time of a day, down to millionths of a second. -/
structure Time where
  hour : Nat
  minute : Nat
  second : Nat
  micros : Nat
  deriving DecidableEq, Repr

/-- A day, a time, or both with the distance from universal time in minutes where it is known. -/
inductive Moment where
  | date (date : Date)
  | time (time : Time)
  | dateTime (date : Date) (time : Time) (offset : Option Int)
  deriving DecidableEq, Repr

/-- A TOML value. Tables keep the order in which their members were written. -/
inductive Value where
  | string (text : Text)
  | integer (value : Int)
  | float (value : Binary64)
  | boolean (value : Bool)
  | moment (moment : Moment)
  | array (items : List Value)
  | table (members : List (Text × Value))
  deriving Inhabited

/-- The members of a table. -/
abbrev Members := List (Text × Value)

/-! ## Moments as text -/

/-- A number with zeros in front up to the given width. -/
def padded (width number : Nat) : Text :=
  let digits := Text.ofNat number
  List.replicate (width - digits.length) '0' ++ digits

/-- Texts with a separator between each and the next. -/
def joined (separator : String) (texts : List Text) : Text :=
  (texts.intersperse separator.toList).flatten

namespace Date

/-- The day as year, month and day. -/
def text (date : Date) : Text :=
  joined "-" [padded 4 date.year, padded 2 date.month, padded 2 date.day]

/-- The numbers of a day. -/
def numbers (date : Date) : List Nat :=
  [date.year, date.month, date.day]

/-- Whether a year has a 29th of February. -/
def isLeap (year : Nat) : Bool :=
  year % 4 == 0 && (year % 100 != 0 || year % 400 == 0)

/-- The number of days of a month. -/
def daysIn (year month : Nat) : Nat :=
  if month = 2 then if isLeap year then 29 else 28
  else if [4, 6, 9, 11].contains month then 30
  else 31

/-- Whether the day exists. Years count from one. -/
def isValid (date : Date) : Bool :=
  0 < date.year && date.day ≤ daysIn date.year date.month

end Date

/-- The time of day, with a fraction only where there is one. -/
def Time.text (time : Time) : Text :=
  joined ":" [padded 2 time.hour, padded 2 time.minute, padded 2 time.second] ++
    if time.micros = 0 then [] else '.' :: padded 6 time.micros

/-- The numbers of a time that matter: hours and minutes always, seconds and fractions only up to
the last one that is not zero. -/
def Time.numbers (time : Time) : List Nat :=
  if time.micros ≠ 0 then [time.hour, time.minute, time.second, time.micros]
  else if time.second ≠ 0 then [time.hour, time.minute, time.second]
  else [time.hour, time.minute]

/-- A distance from universal time. -/
def offsetText (minutes : Int) : Text :=
  (if minutes < 0 then '-' else '+') ::
    (padded 2 (minutes.natAbs / 60) ++ ':' :: padded 2 (minutes.natAbs % 60))

/-- A distance from universal time with the name of its kind. Negative distances are shown as a day
less and what is then to be added. -/
def shownOffset (minutes : Int) : Text :=
  if minutes = 0 then "datetime.timezone.utc".toList
  else
    let amount :=
      if minutes < 0 then "days=-1, seconds=".toList ++ Text.ofInt (86400 + minutes * 60)
      else "seconds=".toList ++ Text.ofInt (minutes * 60)
    "datetime.timezone(datetime.timedelta(".toList ++ amount ++ "))".toList

namespace Moment

/-- The moment as plain text. -/
def text : Moment → Text
  | date day => day.text
  | time clock => clock.text
  | dateTime day clock offset =>
      day.text ++ ' ' :: clock.text ++ (offset.map offsetText).getD []

/-- The kind of a moment. -/
def kind : Moment → String
  | date _ => "datetime.date"
  | time _ => "datetime.time"
  | dateTime .. => "datetime.datetime"

/-- The moment with the name of its kind. -/
def shown (moment : Moment) : Text :=
  let parts : List Text :=
    match moment with
    | date day => day.numbers.map Text.ofNat
    | time clock => clock.numbers.map Text.ofNat
    | dateTime day clock offset =>
        (day.numbers ++ clock.numbers).map Text.ofNat ++
          (offset.map fun minutes => "tzinfo=".toList ++ shownOffset minutes).toList
  moment.kind.toList ++ '(' :: (joined ", " parts ++ [')'])

end Moment

/-! ## Values as text -/

namespace Value

/-- The kind of a value. -/
def kind : Value → String
  | string _ => "str"
  | integer _ => "int"
  | float _ => "float"
  | boolean _ => "bool"
  | moment instant => instant.kind
  | array _ => "list"
  | table _ => "dict"

mutual

/-- A value as part of a larger one. -/
def shown : Value → Text
  | string text => text.quoted
  | integer value => Text.ofInt value
  | float value => value.text
  | boolean value => if value then "True".toList else "False".toList
  | moment instant => instant.shown
  | array items => '[' :: (joined ", " (shownItems items) ++ [']'])
  | table members => '\x7b' :: (joined ", " (shownMembers members) ++ ['\x7d'])

/-- The items of an array as parts of it. -/
def shownItems : List Value → List Text
  | [] => []
  | item :: others => shown item :: shownItems others

/-- The members of a table as parts of it. -/
def shownMembers : Members → List Text
  | [] => []
  | (name, value) :: others =>
      (name.quoted ++ ':' :: ' ' :: shown value) :: shownMembers others

end

/-- A value as plain text. -/
def text : Value → Text
  | string text => text
  | moment instant => instant.text
  | value => value.shown

mutual

/-- Whether no integer in a value has more digits than the limit. -/
def isWritable : Value → Bool
  | integer value => value.natAbs < 10 ^ digitLimit
  | array items => areWritable items
  | table members => membersAreWritable members
  | _ => true

/-- Whether no integer in a list of values has more digits than the limit. -/
def areWritable : List Value → Bool
  | [] => true
  | item :: others => isWritable item && areWritable others

/-- Whether no integer in the members of a table has more digits than the limit. -/
def membersAreWritable : Members → Bool
  | [] => true
  | (_, value) :: others => isWritable value && membersAreWritable others

end

/-- Whether a value counts as a switch that is on: neither zero nor empty. -/
def isOn : Value → Bool
  | string text => !text.isEmpty
  | integer value => value != 0
  | float value => !value.isZero
  | boolean value => value
  | moment _ => true
  | array items => !items.isEmpty
  | table members => !members.isEmpty

end Value

end Segmentation.Toml
