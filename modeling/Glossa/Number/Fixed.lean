import Glossa.Text.Basic
import Glossa.Number.Binary

/-!
# Numbers with a set number of places

A magnitude is rounded to decimal places from its exact value, a half going to the even digit. `Grouping` puts separators
between the digits before the point.
-/

namespace Glossa

/-- Where separators stand in the digits before the point, counted from the right. -/
inductive Grouping where
  /-- After every three digits. -/
  | thousands
  /-- After every three digits, in numbers of five digits or more. -/
  | fromFiveDigits
  /-- After three digits and then after every two. -/
  | indian
deriving DecidableEq, Repr

namespace Grouping

/-- Whether a separator stands in front of the digit that has `right` digits from itself to the end. -/
def breaksBefore (g : Grouping) (right : Nat) : Bool :=
  match g with
  | .indian => right == 3 || (3 < right && (right - 3) % 2 == 0)
  | .thousands | .fromFiveDigits => right % 3 == 0

/-- The digits with separators, where the first digit given is not the first of the number. -/
def separate (g : Grouping) (sep : Text) : Text → Text
  | [] => []
  | c :: s => (if g.breaksBefore (s.length + 1) then sep else []) ++ c :: separate g sep s

/-- The digits with separators between the groups. -/
def write (g : Grouping) (sep digits : Text) : Text :=
  match digits with
  | [] => []
  | c :: s => if g = .fromFiveDigits ∧ digits.length < 5 then digits else c :: separate g sep s

end Grouping

/-- A number rounded to decimal places. -/
structure Fixed where
  /-- The number is below zero and does not show as zero. -/
  negative : Bool
  /-- The digits before the point, or the name of a value that has no digits. -/
  whole : Text
  /-- The digits after the point. -/
  fraction : Text
deriving DecidableEq, Repr

namespace Fixed

/-- The decimal digits of a number, zeros in front up to a given length. -/
def paddedDigits (width n : Nat) : Text := Text.padStart '0' width (Nat.toDigits 10 n)

/-- A float rounded to `places`. Infinity and the undefined value show their names and carry no sign. -/
def ofFloat (x : Float) (places : Nat) : Fixed :=
  if Binary.isUndefined x then ⟨false, ['N', 'a', 'N'], []⟩
  else if Binary.isFinite x then
    let n := Binary.roundQuotient (Binary.grains (Binary.code x) * tenTo places) Binary.grainsPerUnit
    ⟨Binary.isNegative x && n != 0, Nat.toDigits 10 (n / tenTo places),
      if places = 0 then [] else paddedDigits places (n % tenTo places)⟩
  else ⟨false, ['i', 'n', 'f'], []⟩

/-- The number without the zeros at the end of its fraction. -/
def trimFraction (f : Fixed) : Fixed :=
  { f with fraction := (f.fraction.reverse.dropWhile (· == '0')).reverse }

/-- The grouped whole part and the fraction, without the sign. A number without a fraction has no point. -/
def join (f : Fixed) (grouped point : Text) : Text :=
  if f.fraction = [] then grouped else grouped ++ point ++ f.fraction

end Fixed

end Glossa
