import Glossa.Number.Fixed

/-!
# Currencies by region

For each region its currency, and the way it writes numbers and puts the symbol of the currency.
-/

namespace Glossa

/-- On which side of the number the symbol stands. -/
inductive SymbolPosition where
  | before
  | after
deriving DecidableEq, Repr

/-- The currency of a region. -/
structure Currency where
  /-- The three-letter code. -/
  code : String
  /-- The symbol that the region writes. -/
  symbol : String
  /-- The mark before the fraction. -/
  point : String
  /-- The mark between groups of digits. -/
  separator : String
  /-- Where separators stand. -/
  grouping : Grouping
  /-- The side of the symbol. -/
  position : SymbolPosition
deriving DecidableEq, Repr

namespace Currency

/-- The entry of the United States, which stands in for regions without one. -/
def us : Currency := ⟨"USD", "$", ".", ",", .thousands, .before⟩

/-- The regions in the order in which a code is looked for. -/
def regions : List (String × Currency) :=
  [("US", us),
   ("DE", ⟨"EUR", "€", ",", ".", .thousands, .before⟩),
   ("AT", ⟨"EUR", "€", ",", "\u00a0", .thousands, .before⟩),
   ("FR", ⟨"EUR", "€", ",", "\u202f", .thousands, .before⟩),
   ("ES", ⟨"EUR", "€", ",", ".", .fromFiveDigits, .before⟩),
   ("IT", ⟨"EUR", "€", ",", ".", .thousands, .before⟩),
   ("NL", ⟨"EUR", "€", ",", ".", .thousands, .before⟩),
   ("GB", ⟨"GBP", "£", ".", ",", .thousands, .before⟩),
   ("CH", ⟨"CHF", "CHF", ".", "’", .thousands, .before⟩),
   ("JP", ⟨"JPY", "¥", ".", ",", .thousands, .before⟩),
   ("CN", ⟨"CNY", "¥", ".", ",", .thousands, .before⟩),
   ("IN", ⟨"INR", "₹", ".", ",", .indian, .before⟩),
   ("CA", ⟨"CAD", "$", ".", ",", .thousands, .before⟩),
   ("AU", ⟨"AUD", "$", ".", ",", .thousands, .before⟩),
   ("MX", ⟨"MXN", "$", ".", ",", .thousands, .before⟩),
   ("BR", ⟨"BRL", "R$", ",", ".", .thousands, .before⟩),
   ("SE", ⟨"SEK", "kr", ",", "\u00a0", .thousands, .after⟩),
   ("NO", ⟨"NOK", "kr", ",", "\u00a0", .thousands, .after⟩),
   ("DK", ⟨"DKK", "kr.", ",", ".", .thousands, .after⟩),
   ("PL", ⟨"PLN", "zł", ",", "\u00a0", .fromFiveDigits, .after⟩)]

/-- The currency of a region. -/
def ofRegion (region : Text) : Currency := (regions.lookup (String.ofList region)).getD us

/-- The first currency with a code, in any case. -/
def ofCode? (code : Text) : Option Currency :=
  (regions.map (·.2)).find? fun c => Text.sameIgnoringCase c.code.toList code

end Currency

end Glossa
