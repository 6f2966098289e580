import Glossa.Number.Literal
import Glossa.Time.Zone.Basic

/-!
# Scanning dates

The pieces that written dates share: runs of digits of a bounded length, a sign, blanks, and the fields of a date with a
time of day. A scanner gives what it has read and the text after it.
-/

namespace Glossa.DateText

/-! ## Numbers -/

/-- The number in the longest run of at most `most` digits at the start of a text, when it has at least `least` digits. -/
def number? (least most : Nat) (s : Text) : Option (Nat × Text) :=
  let ds := (s.take most).takeWhile Char.isDigit
  if least ≤ ds.length then some (Literal.digitsValue ds, s.drop ds.length) else none

/-- The number in the whole run of digits at the start of a text, when it has at least `least` digits. -/
def longNumber? (least : Nat) (s : Text) : Option (Nat × Text) := number? least s.length s

theorem number?_eq_some_iff {least most n : Nat} {s rest : Text} :
    number? least most s = some (n, rest) ↔
      ∃ ds, s = ds ++ rest ∧ ds = (s.take most).takeWhile Char.isDigit ∧ least ≤ ds.length ∧ Literal.digitsValue ds = n := by
  simp only [number?]
  constructor
  · intro h
    split at h
    next long =>
      simp only [Option.some.injEq, Prod.mk.injEq] at h
      obtain ⟨rfl, rfl⟩ := h
      refine ⟨_, ?_, rfl, long, rfl⟩
      have start : (s.take most).takeWhile Char.isDigit <+: s :=
        (List.takeWhile_prefix _).trans (List.take_prefix _ _)
      exact (List.prefix_iff_eq_append.1 start).symm
    next => simp at h
  · rintro ⟨ds, split, run, long, rfl⟩
    rw [← run, if_pos long]
    have : s.drop ds.length = rest := by
      conv => lhs; rw [split]
      simp
    rw [this]

/-- A sign and the digits after it that fill the whole text, as a whole number. The sign may be missing. -/
def signedNumber? (s : Text) : Option Int :=
  let (negative, ds) := Literal.takeSign s
  if ds ≠ [] ∧ ds.all Char.isDigit then
    some (if negative then -(Literal.digitsValue ds : Int) else Literal.digitsValue ds)
  else none

/-! ## Blanks and letters -/

/-- The text after its leading white space, of which there has to be some. -/
def afterBlank? (s : Text) : Option Text :=
  match s with
  | [] => none
  | c :: rest => if Text.isBlank c then some (Text.trimStart rest) else none

/-- The entry of a table that names the first three letters of a text, in either case, and the text after them. -/
def shortName? (names : List (String × α)) (s : Text) : Option (α × Text) :=
  (names.find? fun (name, _) => Text.sameIgnoringCase name.toList (s.take 3)).map fun (_, value) => (value, s.drop 3)

/-! ## Fields -/

/-- A date and a time of day as they are written, before they are checked. -/
structure Fields where
  year : Int
  month : Nat
  day : Nat
  hour : Nat
  minute : Nat
  second : Nat
deriving DecidableEq, Repr

namespace Fields

/-- The fields of a text that has written nothing. -/
def blank : Fields := ⟨0, 0, 0, 0, 0, 0⟩

/-- The date. -/
def date (f : Fields) : Date := ⟨f.year, f.month, f.day⟩

/-- The date and time, when both exist. The sixtieth second, which some minutes have, counts as the one before. -/
def local? (f : Fields) : Option LocalSeconds :=
  if f.date.isValid ∧ f.hour ≤ 23 ∧ f.minute ≤ 59 ∧ f.second ≤ 60 then
    some (LocalSeconds.ofDate f.date (f.hour * 3600 + f.minute * 60 + min f.second 59 : Nat))
  else none

end Fields

/-- The seconds of a difference of at most 99 hours and 59 minutes to universal time. -/
def offsetSeconds (negative : Bool) (hours minutes : Nat) : Int :=
  let seconds : Int := (hours * 3600 + minutes * 60 : Nat)
  if negative then -seconds else seconds

/-- The instant at which clocks with a fixed difference to universal time show a local time, when the difference is
shorter than a day. -/
def atOffset? (l : LocalSeconds) (offset : Int) : Option Instant :=
  let t : Instant := l - offset
  if offset.natAbs < 86400 ∧ Instant.isKept t then some t else none

end Glossa.DateText
