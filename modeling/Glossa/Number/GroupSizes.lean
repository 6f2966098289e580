import Glossa.Text.Basic

/-!
# Sizes of digit groups

Any scheme that splits the digits before the point into a group next to the point and further groups of one size. The
statement beside the definitions says that a number shorter than the scheme asks for stays whole.
-/

namespace Glossa

/-- How the digits before the point fall into groups, counted from the point. -/
structure GroupSizes where
  /-- The digits in the group next to the point. With no digits there, nothing is grouped. -/
  first : Nat := 3
  /-- The digits in every further group. -/
  later : Nat := 3
  /-- The digits that must stand in front of the first group for a separator to be written. -/
  least : Nat := 1
deriving DecidableEq, Repr

namespace GroupSizes

/-- Groups of three. -/
def thousands : GroupSizes := {}

/-- A group of three and then groups of two. -/
def indian : GroupSizes := { later := 2 }

/-- Groups of three, in numbers of at least `n + 3` digits. -/
def atLeast (n : Nat) : GroupSizes := { least := n }

/-- The digits stay together. -/
def none : GroupSizes := { first := 0 }

/-- Whether a group begins with the digit that has `right` digits from itself to the point. -/
def beginsAt (g : GroupSizes) (right : Nat) : Bool := g.first ≤ right && (right - g.first) % g.later == 0

/-- Digits with separators, where the first digit given is not the first of the number. -/
def separate (g : GroupSizes) (sep : Text) : Text → Text
  | [] => []
  | c :: s => (if g.beginsAt (s.length + 1) then sep else []) ++ c :: separate g sep s

/-- The digits of a number with separators between the groups. -/
def write (g : GroupSizes) (sep digits : Text) : Text :=
  match digits with
  | [] => []
  | c :: s => if g.first = 0 ∨ digits.length < g.first + g.least then digits else c :: separate g sep s

theorem write_of_short {g : GroupSizes} {digits : Text} (sep : Text) (short : digits.length < g.first + g.least) :
    g.write sep digits = digits := by
  cases digits with
  | nil => rfl
  | cons c s => exact if_pos (Or.inr short)

end GroupSizes

end Glossa
