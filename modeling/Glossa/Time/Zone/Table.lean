import Glossa.Time.Zone.Basic

/-!
# Zone tables

The compact form in which zones are written down: the kinds of time, the changes of the past, and the two changes that
return every year up to 2099.
-/

namespace Glossa

/-- A day of a month, named by its weekday. -/
inductive DayRule where
  /-- The last such day of the month. -/
  | last (day : Weekday)
  /-- The first such day on or after a day of the month. -/
  | onOrAfter (day : Weekday) (start : Nat)
deriving DecidableEq, Repr

/-- The number of the day in a given month. -/
def DayRule.toDay (year : Int) (month : Nat) : DayRule → Int
  | .last day =>
    let n := Date.toDay ⟨year, month, Date.monthLength year month⟩
    n - ((Weekday.ofDay n).index - day.index : Int) % 7
  | .onOrAfter day start =>
    let n := Date.toDay ⟨year, month, start⟩
    n + (day.index - (Weekday.ofDay n).index : Int) % 7

/-- A change that returns every year. -/
structure YearlyChange where
  month : Nat
  day : DayRule
  /-- The seconds from the midnight of universal time that starts the day. -/
  second : Int
  /-- The place of the new time among the kinds. -/
  kind : Nat
deriving DecidableEq, Repr

/-- A zone in compact form. -/
structure ZoneTable where
  /-- Offsets and abbreviations; the first one holds before all changes. -/
  kinds : List (Int × String)
  /-- The changes of the past, each with the place of the new time among the kinds. -/
  changes : List (Instant × Nat)
  /-- The first year of the changes that return. -/
  yearlyFrom : Int := 2100
  /-- The changes that return, in the order of the year. -/
  yearly : List YearlyChange := []
deriving DecidableEq, Repr

namespace ZoneTable

/-- The kind of time at a place. -/
def kind (t : ZoneTable) (i : Nat) : ZoneTime :=
  match t.kinds[i]? with
  | some (offset, abbreviation) => ⟨offset, abbreviation.toList⟩
  | none => ⟨0, "UTC".toList⟩

/-- The changes of the years up to 2099 that return. -/
def yearlyChanges (t : ZoneTable) : List (Instant × Nat) :=
  (List.range (2100 - t.yearlyFrom).toNat).flatMap fun i =>
    t.yearly.map fun c =>
      (c.day.toDay (t.yearlyFrom + i) c.month * secondsPerDay + c.second, c.kind)

/-- The zone of a table, under a given name. -/
def toZone (t : ZoneTable) (name : Text) : Zone :=
  ⟨name, t.kind 0, (t.changes ++ t.yearlyChanges).map fun (start, k) => (start, t.kind k)⟩

/-- A table without changes. -/
def steady (offset : Int) (abbreviation : String) : ZoneTable := ⟨[(offset, abbreviation)], [], 2100, []⟩

end ZoneTable

end Glossa
