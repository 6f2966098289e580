import Glossa.Time.DateText.Scan

/-!
# Internet timestamps

Timestamps of the Internet profile, as in `2020-01-02T04:59:00.5Z` and `2020-01-02 04:59:00+01:30`.
-/

namespace Glossa.DateText.Internet

/-- A mark between the date and the time of day. -/
def isTimeMark (c : Char) : Bool := c = 'T' || c = 't' || c = ' '

/-- A sign in front of a difference to universal time, and whether it is a minus. The mathematical minus sign counts. -/
def sign? : Text → Option (Bool × Text)
  | '+' :: s => some (false, s)
  | '-' :: s => some (true, s)
  | '\u2212' :: s => some (true, s)
  | _ => none

/-- The difference to universal time that fills a text: `Z`, or a sign, hours, a colon and minutes, short of a day. -/
def offset? (s : Text) : Option Int :=
  if s = ['Z'] ∨ s = ['z'] then some 0
  else do
    let (negative, s) ← sign? s
    let (hours, s) ← number? 2 2 s
    let s ← Text.after? [':'] s
    let (minutes, s) ← number? 2 2 s
    if s = [] ∧ hours ≤ 23 ∧ minutes ≤ 59 then some (offsetSeconds negative hours minutes) else none

/-- The text after a fraction of a second, if there is one. A point needs a digit after it. -/
def afterFraction? (s : Text) : Option Text :=
  match s with
  | '.' :: s => (longNumber? 1 s).map (·.2)
  | s => some s

/-- The fields of a timestamp and the text after its seconds. -/
def fields? (s : Text) : Option (Fields × Text) := do
  let (year, s) ← number? 4 4 s
  let s ← Text.after? ['-'] s
  let (month, s) ← number? 2 2 s
  let s ← Text.after? ['-'] s
  let (day, s) ← number? 2 2 s
  let s ← if (s.head?.any isTimeMark) then some s.tail else none
  let (hour, s) ← number? 2 2 s
  let s ← Text.after? [':'] s
  let (minute, s) ← number? 2 2 s
  let s ← Text.after? [':'] s
  let (second, s) ← number? 2 2 s
  return (⟨year, month, day, hour, minute, second⟩, s)

/-- The instant of a timestamp that fills the text. A fraction of a second is dropped. -/
def read? (s : Text) : Option Instant := do
  let (fields, s) ← fields? s
  let s ← afterFraction? s
  let offset ← offset? s
  atOffset? (← fields.local?) offset

end Glossa.DateText.Internet
