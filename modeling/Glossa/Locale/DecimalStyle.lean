import Glossa.Locale.Numbering
import Glossa.Number.Fixed
import Glossa.Number.GroupSizes

/-!
# Decimal styles

The digits, separators, grouping and minus sign that a language writes numbers with.
-/

namespace Glossa

/-- How a language writes numbers. -/
structure DecimalStyle where
  /-- The mark before the fraction. -/
  point : Text := ['.']
  /-- The mark between groups of digits. -/
  separator : Text := [',']
  /-- The sign of numbers below zero. -/
  minus : Text := ['-']
  /-- Where separators stand. -/
  groups : GroupSizes := .thousands
  /-- The digits. -/
  numbering : Numbering := .latin
deriving DecidableEq, Repr

namespace DecimalStyle

/-- The style of languages that have none of their own. -/
def root : DecimalStyle := {}

/-- The number `n / 10 ^ places` with all its places. -/
def write (s : DecimalStyle) (n places : Nat) : Text :=
  let whole := s.groups.write s.separator ((Nat.toDigits 10 (n / tenTo places)).map s.numbering.digit)
  if places = 0 then whole
  else whole ++ s.point ++ (Fixed.paddedDigits places (n % tenTo places)).map s.numbering.digit

/-- What is put in front of numbers below zero: all that precedes the first numeral in the written form of minus one. A
digit that counts as a letter is no numeral and so comes along. -/
def signText (s : DecimalStyle) : Text :=
  s.minus ++ if s.numbering.ideographic then [s.numbering.digit '1'] else []

end DecimalStyle

end Glossa
