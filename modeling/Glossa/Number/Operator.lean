import Glossa.Text.Quoted
import Glossa.Number.Binary

/-!
# Arithmetic operators

The six operators of an expression on floats.
-/

namespace Glossa

/-- The operators of an expression. -/
inductive Operator where
  | add
  | sub
  | mul
  | div
  | pow
  | rem
deriving DecidableEq, Repr

namespace Operator

/-- Every operator. -/
def all : List Operator := [.add, .sub, .mul, .div, .pow, .rem]

/-- The sign that stands for the operator. -/
def sign : Operator → Text
  | .add => ['+']
  | .sub => ['-']
  | .mul => ['*']
  | .div => ['/']
  | .pow => ['*', '*']
  | .rem => ['%']

/-- The operator with a given sign. -/
def ofSign? (s : Text) : Option Operator := all.find? fun op => op.sign == s

theorem ofSign?_sign (op : Operator) : ofSign? op.sign = some op := by cases op <;> rfl

/-- The remainder of the whole parts, with the sign of the dividend. It is undefined for a divisor whose whole part is
zero and for an infinite dividend; an infinite divisor leaves the whole part of the dividend. -/
def remainder (x y : Float) : Float :=
  if Binary.isUndefined x || Binary.isUndefined y || !Binary.isFinite x then Binary.undefined
  else
    let n := Binary.wholePart x
    if !Binary.isFinite y then Binary.toFloat (Binary.isNegative x) (Binary.nearest n 1)
    else if Binary.wholePart y = 0 then Binary.undefined
    else Binary.toFloat (Binary.isNegative x) (Binary.nearest (n % Binary.wholePart y) 1)

/-- The value of an operation. -/
def apply : Operator → Float → Float → Float
  | .add, x, y => x + y
  | .sub, x, y => x - y
  | .mul, x, y => x * y
  | .div, x, y => x / y
  | .pow, x, y => Float.pow x y
  | .rem, x, y => remainder x y

end Operator

end Glossa
