import Glossa.Locale.Basic

/-!
# Currency symbols and layouts by language

How a language writes an amount of any currency: the number of places, the symbol, and where the symbol stands.
-/

namespace Glossa

/-- Where the symbol stands. -/
inductive MoneyLayout where
  /-- In front of the number. -/
  | leading
  /-- In front of the number, with a no-break space between. -/
  | leadingSpaced
  /-- After the number, with a no-break space between. -/
  | trailing
deriving DecidableEq, Repr

namespace MoneyLayout

/-- The languages that write the symbol after the number. -/
def trailingLanguages : List String :=
  ["de", "fr", "es", "it", "pt", "pl", "ru", "sv", "nb", "no", "da", "fi", "cs"]

/-- The layout of a locale. -/
def ofLocale (l : Locale) : MoneyLayout :=
  let language := String.ofList l.language
  let region := String.ofList l.region
  if language == "nl" || (language, region) ∈ [("de", "AT"), ("de", "CH"), ("pt", "BR")] then leadingSpaced
  else if language ∈ trailingLanguages then trailing
  else leading

/-- A symbol and a number put together. -/
def join (layout : MoneyLayout) (symbol number : Text) : Text :=
  match layout with
  | leading => symbol ++ number
  | leadingSpaced => symbol ++ '\u00a0' :: number
  | trailing => number ++ '\u00a0' :: symbol

end MoneyLayout

namespace Money

/-- The symbols that are understood everywhere. -/
def symbols : List (String × String) :=
  [("USD", "$"), ("EUR", "€"), ("GBP", "£"), ("JPY", "¥"), ("CNY", "CN¥"), ("INR", "₹"), ("CAD", "CA$"), ("AUD", "A$"),
   ("MXN", "MX$"), ("BRL", "R$"), ("CHF", "CHF")]

/-- The shorter symbols that a region writes for its own currency. -/
def localSymbols : List ((String × String) × String) :=
  [(("CA", "CAD"), "$"), (("AU", "AUD"), "$"), (("MX", "MXN"), "$"), (("CN", "CNY"), "¥"), (("SE", "SEK"), "kr"),
   (("NO", "NOK"), "kr"), (("DK", "DKK"), "kr."), (("PL", "PLN"), "zł")]

/-- The symbol that a locale writes for a code; a code without a symbol stands for itself. -/
def symbol (l : Locale) (code : Text) : Text :=
  match localSymbols.lookup (String.ofList l.region, String.ofList code) with
  | some s => s.toList
  | none => ((symbols.lookup (String.ofList code)).map String.toList).getD code

/-- The number of places that amounts of a currency have. -/
def places (code : Text) : Nat := if String.ofList code ∈ ["JPY", "KRW", "CLP", "ISK"] then 0 else 2

end Money

end Glossa
