import Glossa.Text.Basic
import Glossa.Locale.CalendarDirectory

/-!
# Locales

A locale is named by a tag such as `de-DE` or `de_DE`. The language is what stands before the first separator. The region
is read at a fixed place, after three bytes, whatever stands there; nothing is checked.
-/

namespace Glossa

/-- A locale. -/
structure Locale where
  /-- The tag as it was given. -/
  tag : Text
  /-- The language of the tag. -/
  language : Text
  /-- The region of the tag. -/
  region : Text
deriving DecidableEq, Repr

/-- What a default pattern is for. -/
inductive PatternKind where
  | date
  | time
deriving DecidableEq, Repr

namespace Locale

/-- The text from a byte of its UTF-8 form on, if a character starts there or the text ends there. -/
def dropBytes? : Nat → Text → Option Text
  | 0, s => some s
  | _ + 1, [] => none
  | n + 1, c :: s => if c.utf8Size ≤ n + 1 then dropBytes? (n + 1 - c.utf8Size) s else none

/-- The locale of a tag. -/
def ofTag (tag : Text) : Locale :=
  ⟨tag, tag.takeWhile fun c => c != '-' && c != '_', (dropBytes? 3 tag).getD []⟩

/-- The locale used when none is asked for. -/
def defaultTag : Text := "en-US".toList

/-- The name of the calendar whose month and weekday names the locale uses; `POSIX` when there is none for its language
and region. -/
def calendar (l : Locale) : Text :=
  let name := l.language ++ '_' :: l.region
  if calendarDirectory.contains (String.ofList name) then name else "POSIX".toList

/-- The pattern of a date or time that names none. The region `US` writes month, day and year and a clock of twelve
hours, every other region day, month and year and a clock of twenty-four. -/
def defaultPattern (l : Locale) (kind : PatternKind) : Text :=
  match kind, l.region == "US".toList with
  | .date, true => "MM/dd/yyyy".toList
  | .date, false => "dd.MM.yyyy".toList
  | .time, true => "hh:mm a z".toList
  | .time, false => "H:mm".toList

end Locale

end Glossa
