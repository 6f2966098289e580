/-!
# Powers

The powers of the two bases in which numbers are kept and written, and the range of whole numbers of 64 bits.
-/

namespace Glossa

/-- A power of two. -/
def twoTo (n : Nat) : Nat := Nat.pow 2 n

/-- A power of ten. -/
def tenTo (n : Nat) : Nat := Nat.pow 10 n

/-- The greatest whole number of 64 bits with a sign is one less. -/
def int64Bound : Nat := twoTo 63

/-- Whether a whole number fits in 64 bits with a sign. -/
def isInt64 (n : Int) : Bool := -(int64Bound : Int) ≤ n && n < int64Bound

end Glossa
