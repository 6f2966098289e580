import Glossa.Time.DateText.Internet
import Glossa.Time.DateText.Mail
import Glossa.Time.DateText.Plain
import Glossa.Time.DateText.Relative

/-!
# Date text

Reads the instant that a text names: a count of seconds after `@`, a time named from now, an Internet timestamp, a mail
date, or a plain date and time on the clocks of a zone.
-/

namespace Glossa.DateText

/-- A count of seconds that fits in 64 bits. -/
def stamp? (s : Text) : Option Instant := (signedNumber? s).filter isInt64

/-- The instant that lower-case words name from now. -/
def fromNow? (s : Text) (now : Instant) (z : Zone) : Option Instant :=
  if s = "now".toList then some now
  else
    match NamedTime.ofName? s with
    | some time => time.instant? now z
    | none => (Shift.ofWords? s.words).bind (·.after? now z)

/-- The instant that a text names without reference to now. -/
def absolute? (s : Text) (z : Zone) : Option Instant :=
  (Internet.read? s).or ((Mail.read? s).or ((Plain.read? s).bind z.earliest?))

/-- The instant that a text names, seen from a kept instant in a zone. Words are read against the date of today, so the clocks
of the zone have to show now on a kept day as well. Within a day of the first or the last kept instant they may not: then there
is no today, to read any text without `@` is an error that gives no answer at all, and what `read?` has there means nothing. -/
def read? (s : Text) (now : Instant) (z : Zone) : Option Instant :=
  if Instant.isKept now then
    let s := s.trim
    match s.lower with
    | '@' :: digits => stamp? digits
    | words => (fromNow? words now z).or (absolute? s z)
  else none

end Glossa.DateText
