import Glossa.Time.DateText.Scan

/-!
# Mail dates

Dates of mail headers, as in `Thu, 02 Jan 2020 04:59:00 +0000 (comment)`. The weekday and the seconds may be missing, years
may be short, and a zone may have a name.
-/

namespace Glossa.DateText.Mail

/-! ## Names -/

/-- The weekdays by their names. -/
def weekdays : List (String × Weekday) :=
  [("mon", .monday), ("tue", .tuesday), ("wed", .wednesday), ("thu", .thursday), ("fri", .friday), ("sat", .saturday),
   ("sun", .sunday)]

/-- The months by their names. -/
def months : List (String × Nat) :=
  [("jan", 1), ("feb", 2), ("mar", 3), ("apr", 4), ("may", 5), ("jun", 6), ("jul", 7), ("aug", 8), ("sep", 9),
   ("oct", 10), ("nov", 11), ("dec", 12)]

/-- The hours of the zones that have a name of several letters. -/
def zoneHours : List (String × Int) :=
  [("gmt", 0), ("ut", 0), ("edt", -4), ("est", -5), ("cdt", -5), ("cst", -6), ("mdt", -6), ("mst", -7), ("pdt", -7),
   ("pst", -8)]

/-- The difference to universal time of a zone with a name. Single letters apart from `J` are names without a difference. -/
def namedOffset? (name : Text) : Option Int :=
  match name with
  | [c] => if c.toLower = 'j' then none else some 0
  | name => (zoneHours.find? fun (known, _) => known.toList == Text.lower name).map fun (_, hours) => hours * 3600

/-! ## Comments -/

/-- The text after a comment of which `depth + 1` parentheses are open. A backslash takes the next character literally. -/
def afterComment? : (depth : Nat) → Text → Option Text
  | _, [] => none
  | _, ['\\'] => none
  | depth, '\\' :: _ :: s => afterComment? depth s
  | depth, '(' :: s => afterComment? (depth + 1) s
  | 0, ')' :: s => some s
  | depth + 1, ')' :: s => afterComment? depth s
  | depth, _ :: s => afterComment? depth s

theorem length_lt_of_afterComment? {depth : Nat} {s rest : Text} (h : afterComment? depth s = some rest) :
    rest.length < s.length := by
  fun_induction afterComment? depth s <;> simp_all <;> omega

/-- The text after the comment at its start, in front of which blanks may stand. -/
def comment? (s : Text) : Option Text :=
  match Text.trimStart s with
  | '(' :: rest => afterComment? 0 rest
  | _ => none

theorem length_lt_of_comment? {s rest : Text} (h : comment? s = some rest) : rest.length < s.length := by
  unfold comment? at h
  split at h
  next r opened =>
    have := length_lt_of_afterComment? h
    have := Text.trimStart_length_le s
    simp only [opened, List.length_cons] at this
    omega
  next => simp at h

/-- The text after the comments at its start. -/
def afterComments (s : Text) : Text :=
  match found : comment? s with
  | some rest =>
    have := length_lt_of_comment? found
    afterComments rest
  | none => s
termination_by s.length

/-! ## The parts of a date -/

/-- The weekday and its comma, if the text starts with one, and the text after them. A weekday needs its comma. -/
def weekday? (s : Text) : Option (Option Weekday × Text) :=
  match shortName? weekdays s with
  | none => some (none, s)
  | some (weekday, s) => (Text.after? [','] s).map fun s => (some weekday, s)

/-- A year of at least two digits. Two digits mean the years from 1950 to 2049, three count from 1900. -/
def year? (s : Text) : Option (Nat × Text) := do
  let (year, rest) ← longNumber? 2 s
  let written := s.length - rest.length
  let year := if written = 2 ∧ year < 50 then year + 2000 else if written ≤ 3 then year + 1900 else year
  return (year, rest)

/-- The seconds of a time of day, zero if none are written, and the text after them. -/
def seconds? (s : Text) : Option (Nat × Text) :=
  match Text.after? [':'] (Text.trimStart s) with
  | some s => number? 2 2 s
  | none => some (0, s)

/-- The fields of a date, and the text after the time of day. -/
def fields? (s : Text) : Option (Fields × Text) := do
  let (day, s) ← number? 1 2 s
  let s ← afterBlank? s
  let (month, s) ← shortName? months s
  let s ← afterBlank? s
  let (year, s) ← year? s
  let s ← afterBlank? s
  let (hour, s) ← number? 2 2 s
  let s ← Text.after? [':'] (Text.trimStart s)
  let (minute, s) ← number? 2 2 (Text.trimStart s)
  let (second, s) ← seconds? s
  return (⟨year, month, day, hour, minute, second⟩, s)

/-- The difference to universal time, and the text after it: letters, or a sign, two digits for the hours and two for the
minutes. -/
def offset? (s : Text) : Option (Int × Text) :=
  let name := s.takeWhile Char.isAlpha
  if name = [] then do
    let (negative, s) ←
      match s with
      | '+' :: s => some (false, s)
      | '-' :: s => some (true, s)
      | _ => none
    let (hours, s) ← number? 2 2 s
    let (minutes, s) ← number? 2 2 s
    if minutes ≤ 59 then some (offsetSeconds negative hours minutes, s) else none
  else (namedOffset? name).map fun offset => (offset, s.drop name.length)

/-- The instant of a date that fills the text up to comments at its end. A weekday has to be that of the date. -/
def read? (s : Text) : Option Instant := do
  let (weekday, s) ← weekday? (Text.trimStart s)
  let (fields, s) ← fields? (Text.trimStart s)
  let s ← afterBlank? s
  let (offset, s) ← offset? s
  let l ← fields.local?
  if afterComments s = [] ∧ weekday.all (· = Weekday.ofDay fields.date.toDay) then atOffset? l offset else none

end Glossa.DateText.Mail
