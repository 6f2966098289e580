/-!
# Character ranges

A class of characters given by a table of inclusive code point ranges.
-/

namespace Glossa

/-- Inclusive ranges of code points. -/
abbrev CharRanges := List (Nat × Nat)

namespace CharRanges

/-- Whether a range of the table holds the character. -/
def holds (table : CharRanges) (c : Char) : Bool := table.any fun (low, high) => low ≤ c.toNat && c.toNat ≤ high

/-- The ranges are not empty and each one starts after the end of the one before. -/
def ascending : CharRanges → Bool
  | [] => true
  | [(low, high)] => low ≤ high
  | (low, high) :: (low', high') :: rest => low ≤ high && high < low' && ascending ((low', high') :: rest)

end CharRanges

end Glossa
