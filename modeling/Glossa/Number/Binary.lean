import Glossa.Number.Power

/-!
# Binary magnitudes

The magnitudes of binary floating point, read and rounded with natural numbers alone. Each finite one is a whole number of
*grains*, the least positive magnitude of its format, and its code is its rank among all magnitudes.

The main definitions are `grains`, from a code of the 64-bit format to its value, and `Format.nearest`, from a quotient to
the code of the magnitude nearest to it.
-/

namespace Glossa.Binary

/-- A magnitude is given by its bits without the sign, which are its rank in ascending order. -/
abbrev Code := Nat

/-- The number of grains in one unit, 2 ^ 1074. -/
def grainsPerUnit : Nat := twoTo 1074

/-- The first code that is not finite; it stands for infinity. -/
def infinity : Code := 0x7FF * twoTo 52

/-- The value of a finite code in grains. The eleven bits above the low 52 are the exponent; exponents 0 and 1 have the
same spacing. -/
def grains (code : Code) : Nat :=
  if code / twoTo 52 = 0 then code else (code % twoTo 52 + twoTo 52) * twoTo (code / twoTo 52 - 1)

/-- The quotient `num / den` rounded to a whole number; a half goes to the even neighbour. -/
def roundQuotient (num den : Nat) : Nat :=
  let floor := num / den
  let twice := 2 * (num % den)
  if twice < den then floor
  else if den < twice then floor + 1
  else if floor % 2 = 0 then floor else floor + 1

/-- A format. -/
structure Format where
  /-- The binary digits after the leading one. -/
  digits : Nat
  /-- A grain is this negative power of two. -/
  scale : Nat
  /-- The first code that is not finite. -/
  infinity : Code
deriving DecidableEq, Repr

/-- The format of 64 bits. -/
def Format.double : Format := ⟨52, 1074, Binary.infinity⟩

/-- The format of 32 bits. -/
def Format.single : Format := ⟨23, 149, 0xFF * twoTo 23⟩

/-- The code of the magnitude nearest to `num / den`; a half goes to the even code. Quotients of at least half a step
above the greatest finite magnitude give infinity.

Where all grains have codes of their own the code is the number of grains. Above, the leading binary digits are rounded,
and a carry into the next exponent falls out of the addition. -/
def Format.nearest (f : Format) (num den : Nat) : Code :=
  let scaled := num * twoTo f.scale
  let floor := scaled / den
  let code :=
    if floor < twoTo (f.digits + 1) then roundQuotient scaled den
    else
      let exponent := floor.log2 - f.digits
      exponent * twoTo f.digits + roundQuotient scaled (den * twoTo exponent)
  if code < f.infinity then code else f.infinity

/-- The code of the 64-bit magnitude nearest to `num / den`. -/
def nearest (num den : Nat) : Code := Format.double.nearest num den

/-! ## Floats -/

/-- The sign bit. -/
def isNegative (x : Float) : Bool := twoTo 63 ≤ x.toBits.toNat

/-- The bits without the sign. -/
def code (x : Float) : Code := x.toBits.toNat % twoTo 63

/-- The float with a given sign and magnitude. -/
def toFloat (negative : Bool) (code : Code) : Float :=
  Float.ofBits (UInt64.ofNat ((if negative then twoTo 63 else 0) + code))

/-- Neither infinite nor undefined. -/
def isFinite (x : Float) : Bool := code x < infinity

/-- The undefined value, whose code lies beyond infinity. -/
def isUndefined (x : Float) : Bool := infinity < code x

/-- The undefined value. -/
def undefined : Float := toFloat false (infinity + twoTo 51)

/-- The float that equals a whole number, or the nearest one. -/
def ofInt (n : Int) : Float := toFloat (n < 0) (nearest n.natAbs 1)

/-- The whole part of a finite float, towards zero. -/
def wholePart (x : Float) : Nat := grains (code x) / grainsPerUnit

/-- The 64-bit integer nearest towards zero: values out of range give the nearest bound, and the undefined value
gives 0. -/
def clampToInt64 (x : Float) : Int :=
  if isUndefined x then 0
  else if isFinite x then
    let n : Int := if isNegative x then -(wholePart x : Int) else wholePart x
    max (-(int64Bound : Int)) (min (int64Bound - 1) n)
  else if isNegative x then -(int64Bound : Int) else int64Bound - 1

end Glossa.Binary
