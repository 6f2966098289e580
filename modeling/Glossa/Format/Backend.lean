import Glossa.Format.RegionZones
import Glossa.Locale.DecimalDirectory
import Glossa.Money.Layout
import Glossa.Number.Literal
import Glossa.Time.Show

/-!
# Backends

A backend knows how languages write numbers, amounts, dates and times. `Backend.standard` takes this from the tables of
the library; a page may bring a backend of its own.
-/

namespace Glossa

/-- A source of formatting. -/
structure Backend where
  /-- A number, with three places at most. -/
  decimal : Locale → Float → Text
  /-- An amount of a currency. -/
  currency : Locale → Float → (code : Text) → Text
  /-- An instant in a zone by a pattern. -/
  instant : Locale → Instant → Zone → (pattern : Text) → Text
  /-- The zones of a region, in order. -/
  zones : (region : Text) → List Zone

namespace Fixed

/-- All digits as one whole number, when there are digits and it fits in 63 bits. -/
def toNat? (f : Fixed) : Option Nat :=
  let ds := f.whole ++ f.fraction
  if ds ≠ [] && ds.all Char.isDigit && Literal.digitsValue ds < int64Bound then some (Literal.digitsValue ds) else none

end Fixed

namespace DecimalStyle

/-- The number without its sign. A number that does not fit in 63 bits, or a language without a style, is written with
plain digits, commas between thousands and a point. -/
def writeFixed (style : Option DecimalStyle) (f : Fixed) : Text :=
  match style, f.toNat? with
  | some s, some n => s.write n f.fraction.length
  | _, _ => f.join (Grouping.thousands.write [','] f.whole) ['.']

/-- A text with the sign of the language in front when the number is below zero. -/
def signed (style : Option DecimalStyle) (f : Fixed) (body : Text) : Text :=
  if f.negative then (style.getD root).signText ++ body else body

end DecimalStyle

namespace Backend

/-- A number in the style of a locale, without zeros at the end of its fraction. -/
def writeDecimal (l : Locale) (x : Float) : Text :=
  let style := DecimalStyle.ofLocale? l
  let f := (Fixed.ofFloat x 3).trimFraction
  DecimalStyle.signed style f (DecimalStyle.writeFixed style f)

/-- An amount in the style of a locale. The sign stands in front of number and symbol. -/
def writeCurrency (l : Locale) (x : Float) (code : Text) : Text :=
  let style := DecimalStyle.ofLocale? l
  let f := Fixed.ofFloat x (Money.places code.upper)
  let number := DecimalStyle.writeFixed style f
  DecimalStyle.signed style f ((MoneyLayout.ofLocale l).join (Money.symbol l code.upper) number)

/-- An instant with the names of the calendar of a locale. An instant that is not kept has no text. -/
def writeInstant (l : Locale) (t : Instant) (z : Zone) (pattern : Text) : Text :=
  if Instant.isKept t then t.write z pattern l.calendar else []

/-- The backend over the tables of the library. -/
def standard : Backend := ⟨writeDecimal, writeCurrency, writeInstant, RegionZones.ofRegion⟩

end Backend

end Glossa
