import Glossa.Text.Basic
import Glossa.Time.Civil

/-!
# Time zones

A zone says by how much its clocks differ from universal time at every instant. From that alone follow the local time of
an instant and the instants that show a local time: none where clocks are put forward, several where they are put back.
-/

namespace Glossa

/-- Seconds since the start of 1970 in universal time. -/
abbrev Instant := Int

namespace Instant

/-- The first instant that is kept. -/
def first : Instant := Date.firstDay * secondsPerDay

/-- The last instant that is kept. -/
def last : Instant := Date.lastDay * secondsPerDay + 86399

/-- Whether an instant is kept. -/
def isKept (t : Instant) : Bool := first ≤ t && t ≤ last

end Instant

/-- What the clocks of a zone show over a span of time. -/
structure ZoneTime where
  /-- The seconds by which the clocks are ahead of universal time. -/
  offset : Int
  /-- The abbreviation of the time. -/
  abbreviation : Text
deriving DecidableEq, Repr

/-- A time zone. -/
structure Zone where
  /-- The name of the zone. -/
  name : Text
  /-- The time before the first change. -/
  initial : ZoneTime
  /-- The instants of change in ascending order, each with the time from then on. -/
  changes : List (Instant × ZoneTime)
deriving DecidableEq, Repr

namespace Zone

/-- The time that holds at an instant, given the time before the first change. -/
def timeAfter (t : Instant) : ZoneTime → List (Instant × ZoneTime) → ZoneTime
  | now, [] => now
  | now, (start, next) :: rest => if start ≤ t then timeAfter t next rest else now

/-- The time that holds at an instant. -/
def timeAt (z : Zone) (t : Instant) : ZoneTime := timeAfter t z.initial z.changes

/-- What the clocks of the zone show at an instant. -/
def localAt (z : Zone) (t : Instant) : LocalSeconds := t + (z.timeAt t).offset

/-- The offsets that the zone has had, each one once. -/
def offsets (z : Zone) : List Int := (z.initial.offset :: z.changes.map (·.2.offset)).eraseDups

/-- The kept instants at which the clocks show a local time. -/
def instantsOf (z : Zone) (l : LocalSeconds) : List Instant :=
  (z.offsets.map (l - ·)).filter fun t => z.localAt t == l && Instant.isKept t

/-- The earliest instant at which the clocks show a local time. -/
def earliest? (z : Zone) (l : LocalSeconds) : Option Instant := (z.instantsOf l).min?

/-- The instant at which the clocks show a local time, when there is exactly one. -/
def only? (z : Zone) (l : LocalSeconds) : Option Instant :=
  match z.instantsOf l with
  | [t] => some t
  | _ => none

end Zone

end Glossa
