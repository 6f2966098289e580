import Glossa.Text.Basic

/-!
# Placeholders

A placeholder `[%name%](%value%)` keeps a value out of the way while the rest of a page is being filled in. `write` and
`read?` are its written form and its reader, `unwrapAll` puts the values in the places of the placeholders.
-/

namespace Glossa

/-- A named value waiting in a page. -/
structure Placeholder where
  /-- What kind of value it is. -/
  name : Text
  /-- The text that takes its place. -/
  value : Text
deriving DecidableEq, Repr

namespace Placeholder

/-- The mark before the name. -/
def nameOpen : Text := ['[', '%']

/-- The mark after the name. -/
def nameClose : Text := ['%', ']']

/-- The mark before the value. -/
def valueOpen : Text := ['(', '%']

/-- The mark after the value. -/
def valueClose : Text := ['%', ')']

/-- The written form. -/
def write (p : Placeholder) : Text := nameOpen ++ p.name ++ nameClose ++ valueOpen ++ p.value ++ valueClose

/-- A placeholder at the start of a text, and the text after it. The name and the value end at the first mark that
closes them. -/
def read? (s : Text) : Option (Placeholder × Text) := do
  let s ← Text.after? nameOpen s
  let (name, s) ← Text.cut? nameClose s
  let s ← Text.after? valueOpen s
  let (value, rest) ← Text.cut? valueClose s
  return (⟨name, value⟩, rest)

theorem eq_write_of_read? {s rest : Text} {p : Placeholder} (h : read? s = some (p, rest)) : s = p.write ++ rest := by
  simp only [read?, Option.bind_eq_bind, Option.bind_eq_some_iff, Option.pure_def, Option.some.injEq, Prod.mk.injEq,
    Prod.exists] at h
  obtain ⟨a, ha, name, b, hb, c, hc, value, _, hd, rfl, rfl⟩ := h
  rw [Text.after?_eq_some_iff.1 ha, Text.eq_of_cut? hb, Text.after?_eq_some_iff.1 hc, Text.eq_of_cut? hd]
  simp [write]

theorem length_lt_of_read? {s rest : Text} {p : Placeholder} (h : read? s = some (p, rest)) :
    rest.length < s.length := by
  rw [eq_write_of_read? h]
  simp [write, nameOpen, nameClose, valueOpen, valueClose]
  omega

/-- The text with every placeholder replaced by its value, from left to right. A value is not looked into, and text that
only starts like a placeholder stays. -/
def unwrapAll : Text → Text
  | [] => []
  | c :: s =>
    match found : read? (c :: s) with
    | some (p, rest) =>
      have := length_lt_of_read? found
      p.value ++ unwrapAll rest
    | none => c :: unwrapAll s
termination_by s => s.length
decreasing_by
  · assumption
  · exact Nat.lt_succ_self _

/-- The kinds of values that directives put in placeholders. -/
inductive Kind where
  | number
  | currency
  | date
  | time
deriving DecidableEq, Repr

/-- The name of a kind of value. -/
def Kind.name : Kind → Text
  | number => "number-value".toList
  | currency => "currency-value".toList
  | date => "date-value".toList
  | time => "time-value".toList

/-- A value of a kind in its placeholder. -/
def Kind.wrap (kind : Kind) (value : Text) : Text := write ⟨kind.name, value⟩

end Placeholder

end Glossa
