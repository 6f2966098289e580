import Glossa.Locale.CalendarNames
import Glossa.Time.Pattern
import Glossa.Time.Zone.Basic

/-!
# Dates and times as text

An instant is written in a zone by a pattern, with the names of a calendar.
-/

namespace Glossa

/-- What the fields of a pattern are read from. -/
structure ClockFace where
  /-- The date and time of day. -/
  shown : LocalSeconds
  /-- The time of the zone. -/
  time : ZoneTime
deriving DecidableEq, Repr

namespace ClockFace

/-- The clock of a zone at an instant. -/
def ofInstant (z : Zone) (t : Instant) : ClockFace := ⟨z.localAt t, z.timeAt t⟩

/-- A whole number with zeros in front up to a width, which counts the sign. -/
def padded (width : Nat) (n : Int) : Text :=
  if n < 0 then '-' :: Text.padStart '0' (width - 1) (Nat.toDigits 10 n.natAbs)
  else Text.padStart '0' width (Nat.toDigits 10 n.natAbs)

/-- A year: its last two digits in a field of two letters, else the whole year. -/
def year (count : Nat) (y : Int) : Text := if count = 2 then padded 2 (y % 100) else padded count y

/-- The hour on a clock of twelve hours. -/
def hour12 (hour : Nat) : Nat := if hour % 12 = 0 then 12 else hour % 12

/-- The offset of a zone as sign, hours and minutes, to the nearest minute. -/
def offset (seconds : Int) : Text :=
  let minutes := (seconds.natAbs + 30) / 60
  (if seconds < 0 then '-' else '+') :: padded 2 (minutes / 60) ++ padded 2 (minutes % 60 : Nat)

/-- The text of a field. A letter without a meaning stands for itself. -/
def field (c : ClockFace) (names : CalendarNames) (letter : Char) (count : Nat) : Text :=
  let date := c.shown.date
  let weekday := (Weekday.ofDay c.shown.day).index
  match letter with
  | 'y' => year count date.year
  | 'Y' => year count (Date.weekYear c.shown.day)
  | 'M' =>
    if count = 3 then CalendarNames.nameAt names.shortMonths (date.month - 1)
    else if 3 < count then CalendarNames.nameAt names.longMonths (date.month - 1)
    else padded count date.month
  | 'd' => padded count date.day
  | 'E' =>
    if count ≤ 3 then CalendarNames.nameAt names.shortDays weekday else CalendarNames.nameAt names.longDays weekday
  | 'H' => padded count c.shown.hour
  | 'h' => padded count (hour12 c.shown.hour)
  | 'k' => padded count (if c.shown.hour = 0 then 24 else c.shown.hour)
  | 'K' => padded count (c.shown.hour % 12 : Nat)
  | 'm' => padded count c.shown.minute
  | 's' => padded count c.shown.second
  | 'a' => (if c.shown.hour < 12 then names.morning else names.afternoon).toList
  | 'z' => c.time.abbreviation
  | 'Z' => offset c.time.offset
  | _ => Text.copies letter count

/-- The text of a part of a pattern. -/
def token (c : ClockFace) (names : CalendarNames) : PatternToken → Text
  | .field letter count => c.field names letter count
  | .literal s => s

/-- The text of a pattern. -/
def write (c : ClockFace) (names : CalendarNames) (pattern : Text) : Text :=
  (Pattern.tokens pattern).flatMap (c.token names)

end ClockFace

/-- An instant written in a zone by a pattern. -/
def Instant.write (t : Instant) (z : Zone) (pattern calendar : Text) : Text :=
  (ClockFace.ofInstant z t).write (CalendarNames.named calendar) pattern

end Glossa
