import Glossa.Text.Basic
import Glossa.Number.Binary

/-!
# Shortest decimal text

A float is shown with the fewest decimal digits that read back as the same float, and among those with the ones nearest
to it. The digits are always written out in place, without an exponent.
-/

namespace Glossa.Shortest

open Binary

/-- Decimal digits `0.d1 d2 ... * 10 ^ point`. -/
structure Digits where
  /-- The digits, most significant first. -/
  digits : Text
  /-- How many digits stand before the decimal point; negative when zeros follow it. -/
  point : Int
deriving DecidableEq, Repr

/-- `n * 10 ^ e * 2 ^ 1074`, scaled by `10 ^ k` for a negative exponent `e = -k`. -/
structure Scaled where
  /-- The numerator. -/
  num : Nat
  /-- The denominator. -/
  den : Nat

/-- The decimal `n * 10 ^ e` as a quotient of grains. -/
def decimalGrains (n : Nat) (e : Int) : Scaled :=
  if 0 ≤ e then ⟨n * tenTo e.toNat * grainsPerUnit, 1⟩ else ⟨n * grainsPerUnit, tenTo (-e).toNat⟩

/-- Whether the decimal `n * 10 ^ e` reads back as the magnitude: it lies between the midpoints to the two neighbours,
which themselves belong to the even one of the two codes that they separate. -/
def readsBack (code : Code) (n : Nat) (e : Int) : Bool :=
  let low := grains (code - 1) + grains code
  let high := grains code + grains (code + 1)
  let d := decimalGrains n e
  if code % 2 = 0 then low * d.den ≤ 2 * d.num && 2 * d.num ≤ high * d.den
  else low * d.den < 2 * d.num && 2 * d.num < high * d.den

/-- How many times the value has to be multiplied by ten to reach one, starting from `k` times. -/
def leadingZeros (g : Nat) : (fuel k : Nat) → Nat
  | 0, k => k
  | fuel + 1, k => if grainsPerUnit ≤ g * tenTo (k + 1) then k else leadingZeros g fuel (k + 1)

/-- The least `k` with the value below `10 ^ k`. -/
def pointOf (g : Nat) : Int :=
  if grainsPerUnit ≤ g then (Nat.toDigits 10 (g / grainsPerUnit)).length
  else -(leadingZeros g 330 0 : Int)

/-- The decimals next to the value with a last digit at `10 ^ e`, the lower one. -/
def floorAt (g : Nat) (e : Int) : Nat :=
  if 0 ≤ e then g / (grainsPerUnit * tenTo e.toNat) else g * tenTo (-e).toNat / grainsPerUnit

/-- Of two neighbouring decimals at `10 ^ e` around the value, whether the upper one is as near as the lower one. -/
def upperIsNear (g n : Nat) (e : Int) : Bool :=
  let d := decimalGrains (2 * n + 1) e
  d.num ≤ 2 * g * d.den

/-- The decimal at `10 ^ e` that reads back, if there is one. Of two the nearer is taken, of two equally near ones the
upper. -/
def pick? (code : Code) (e : Int) : Option Nat :=
  let g := grains code
  let n := floorAt g e
  match readsBack code n e, readsBack code (n + 1) e with
  | true, true => some (if upperIsNear g n e then n + 1 else n)
  | true, false => some n
  | false, true => some (n + 1)
  | false, false => none

/-- The first grid, from coarse to fine, with a decimal that reads back; `left` grids are still to be tried. -/
def search (code : Code) : (left : Nat) → (e : Int) → Nat × Int
  | 0, e => (floorAt (grains code) e, e)
  | left + 1, e =>
    match pick? code e with
    | some n => (n, e)
    | none => search code left (e - 1)

/-- The digits of a finite positive magnitude. Seventeen digits always suffice. -/
def digits (code : Code) : Digits :=
  let (n, e) := search code 18 (pointOf (grains code) - 1)
  let ds := Nat.toDigits 10 n
  ⟨(ds.reverse.dropWhile (· == '0')).reverse, ds.length + e⟩

/-- Digits written in place. -/
def Digits.layout (d : Digits) : Text :=
  if d.point ≤ 0 then '0' :: '.' :: Text.copies '0' (-d.point).toNat ++ d.digits
  else if d.digits.length ≤ d.point.toNat then d.digits ++ Text.copies '0' (d.point.toNat - d.digits.length)
  else d.digits.take d.point.toNat ++ '.' :: d.digits.drop d.point.toNat

/-- The text of a float. -/
def text (x : Float) : Text :=
  if isUndefined x then ['N', 'a', 'N']
  else
    let body := if code x = infinity then ['i', 'n', 'f'] else if code x = 0 then ['0'] else (digits (code x)).layout
    if isNegative x then '-' :: body else body

end Glossa.Shortest
