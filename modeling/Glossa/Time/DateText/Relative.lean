import Glossa.Time.DateText.Scan

/-!
# Relative dates

Words that name a time by its distance from now: `tomorrow`, `+3 days`, `2 hours ago`, `next month`. All words are in
lower case here.
-/

namespace Glossa.DateText

/-! ## Days -/

/-- A time of a day that has a name of its own. -/
structure NamedTime where
  /-- The days after today. -/
  days : Int
  /-- The seconds after midnight. -/
  seconds : Int
deriving DecidableEq, Repr

namespace NamedTime

/-- The named times. -/
def ofName? (s : Text) : Option NamedTime :=
  match String.ofList s with
  | "today" | "midnight" => some ⟨0, 0⟩
  | "noon" => some ⟨0, 43200⟩
  | "tomorrow" => some ⟨1, 0⟩
  | "yesterday" => some ⟨-1, 0⟩
  | _ => none

/-- The earliest instant of a named time, seen from now. -/
def instant? (n : NamedTime) (now : Instant) (z : Zone) : Option Instant :=
  let day := LocalSeconds.day (z.localAt now) + n.days
  if Date.firstDay ≤ day ∧ day ≤ Date.lastDay then z.earliest? (day * secondsPerDay + n.seconds) else none

end NamedTime

/-! ## Lengths of time -/

/-- The units of time. -/
inductive TimeUnit where
  | second
  | minute
  | hour
  | day
  | week
  | month
  | year
deriving DecidableEq, Repr

namespace TimeUnit

/-- The unit that a word names in the singular. -/
def ofSingular? (s : Text) : Option TimeUnit :=
  match String.ofList s with
  | "sec" | "second" => some .second
  | "min" | "minute" => some .minute
  | "hour" => some .hour
  | "day" => some .day
  | "week" => some .week
  | "month" => some .month
  | "year" => some .year
  | _ => none

/-- The unit that a word names, with or without an `s` at its end. -/
def ofWord? (s : Text) : Option TimeUnit := ofSingular? (if s.getLast? = some 's' then s.dropLast else s)

end TimeUnit

/-- A length of time. Months are counted on the calendar. -/
inductive Shift where
  | seconds (n : Int)
  | months (n : Int)
deriving DecidableEq, Repr

namespace Shift

/-- A number of units. -/
def ofUnits (n : Int) : TimeUnit → Shift
  | .second => seconds n
  | .minute => seconds (n * 60)
  | .hour => seconds (n * 3600)
  | .day => seconds (n * 86400)
  | .week => seconds (n * 604800)
  | .month => months n
  | .year => months (n * 12)

/-- A whole number of units; besides its sign it may have a plus in front. -/
def amount? (s : Text) : Option Int := signedNumber? ((Text.after? ['+'] s).getD s)

/-- The length of time that a row of words names. -/
def ofWords? : List Text → Option Shift
  | [first, unit] =>
    if first = "next".toList then (TimeUnit.ofWord? unit).map (ofUnits 1)
    else if first = "last".toList then (TimeUnit.ofWord? unit).map (ofUnits (-1))
    else do return ofUnits (← amount? first) (← TimeUnit.ofWord? unit)
  | [amount, unit, last] =>
    if last = "ago".toList then do return ofUnits (-(← amount? amount)) (← TimeUnit.ofWord? unit) else none
  | _ => none

/-- The instant after a length of time. Months move the local date and keep the time of day; the local time has to occur
exactly once. -/
def after? (shift : Shift) (now : Instant) (z : Zone) : Option Instant :=
  match shift with
  | .seconds n =>
    let t : Instant := now + n
    if Instant.isKept t then some t else none
  | .months n =>
    let l := z.localAt now
    let d := l.date.addMonths n
    if d.isValid then z.only? (LocalSeconds.ofDate d l.secondOfDay) else none

end Shift

end Glossa.DateText
