import Glossa.Locale.Basic
import Glossa.Text.Quoted

/-!
# Categories of formatting

The kinds of values that are formatted, by the names that pages use.
-/

namespace Glossa

/-- A kind of value to be formatted. -/
inductive Category where
  | number
  | currency
  | date
  | dateLocal
  | time
  | timeLocal
deriving DecidableEq, Repr

namespace Category

/-- Every category. -/
def all : List Category := [number, currency, date, dateLocal, time, timeLocal]

/-- The name of a category. -/
def name : Category → Text
  | number => "number".toList
  | currency => "currency".toList
  | date => "date".toList
  | dateLocal => "date-local".toList
  | time => "time".toList
  | timeLocal => "time-local".toList

/-- The category with a name. -/
def ofName? (s : Text) : Option Category := all.find? fun c => c.name == s

/-- Whether the category is shown in the zone of the client. -/
def isLocal : Category → Bool
  | dateLocal | timeLocal => true
  | _ => false

/-- Which default pattern the category has. -/
def patternKind? : Category → Option PatternKind
  | date | dateLocal => some .date
  | time | timeLocal => some .time
  | number | currency => none

/-- The message about a name that no category has. -/
def unknownMessage (name : Text) : Text := "unknown format category ".toList ++ name.quoted

end Category

end Glossa
