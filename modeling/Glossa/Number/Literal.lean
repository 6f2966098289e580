import Glossa.Text.Basic
import Glossa.Number.Binary

/-!
# Number literals

A number literal is an optional sign, decimal digits with an optional point, and an optional exponent. `Literal.read?`
recognises one that fills a whole text; `Literal.value` is the float nearest to it.
-/

namespace Glossa

/-- The parts of a number literal. -/
structure Literal where
  /-- A minus sign stands in front. -/
  negative : Bool
  /-- The digits before the point. -/
  whole : Text
  /-- The digits after the point. -/
  fraction : Text
  /-- The power of ten. -/
  exponent : Int
deriving DecidableEq, Repr

namespace Literal

/-- The number that a run of digits writes. -/
def digitsValue (ds : Text) : Nat := ds.foldl (fun n d => 10 * n + (d.toNat - 48)) 0

/-- An optional sign and the text after it. -/
def takeSign : Text → Bool × Text
  | '-' :: s => (true, s)
  | '+' :: s => (false, s)
  | s => (false, s)

/-- The digits that a text starts with and the text after them. -/
def takeDigits (s : Text) : Text × Text := (s.takeWhile Char.isDigit, s.dropWhile Char.isDigit)

/-- The exponent of a literal, when the text is exactly that: nothing, or `e` or `E` with an optional sign and at least
one digit. -/
def readExponent? : Text → Option Int
  | [] => some 0
  | c :: s =>
    if c = 'e' || c = 'E' then
      let (negative, ds) := takeSign s
      if ds ≠ [] && ds.all Char.isDigit then
        some (if negative then -(digitsValue ds : Int) else digitsValue ds)
      else none
    else none

/-- The literal that fills the whole text. Digits may be missing before or after the point, not on both sides. -/
def read? (s : Text) : Option Literal :=
  let (negative, s) := takeSign s
  let (whole, s) := takeDigits s
  let (fraction, s) :=
    match s with
    | '.' :: r => takeDigits r
    | _ => ([], s)
  if whole = [] ∧ fraction = [] then none
  else (readExponent? s).map fun exponent => ⟨negative, whole, fraction, exponent⟩

/-- The digits of the literal as a whole number. -/
def mantissa (l : Literal) : Nat := digitsValue (l.whole ++ l.fraction)

/-- The power of ten that belongs to `mantissa`. -/
def scale (l : Literal) : Int := l.exponent - l.fraction.length

/-- The code of the magnitude nearest to `n * 10 ^ e` in a format of 64 bits at most. A number of at least 10 ^ 310 is
infinite and one below 10 ^ -330 is zero, so that no power of ten outside this range is built. -/
def nearestDecimalIn (f : Binary.Format) (n : Nat) (e : Int) : Binary.Code :=
  let size : Int := (Nat.toDigits 10 n).length + e
  if n = 0 then 0
  else if 310 < size then f.infinity
  else if size < -330 then 0
  else if 0 ≤ e then f.nearest (n * tenTo e.toNat) 1
  else f.nearest n (tenTo (-e).toNat)

/-- The code of the 64-bit magnitude nearest to `n * 10 ^ e`. -/
def nearestDecimal (n : Nat) (e : Int) : Binary.Code := nearestDecimalIn .double n e

/-- The float nearest to the literal. -/
def value (l : Literal) : Float := Binary.toFloat l.negative (nearestDecimal l.mantissa l.scale)

end Literal

/-- The number that a text writes when it is a literal up to white space at its ends. -/
def readNumber? (s : Text) : Option Float := (Literal.read? s.trim).map Literal.value

end Glossa
