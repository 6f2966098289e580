import Glossa.Format.Backend
import Glossa.Format.Category
import Glossa.Money.Currency

/-!
# Formatters

A formatter serves one locale. With a backend it leaves the writing to the backend; without one it uses the separators of
the region, two places, and the zone of the server for every instant.
-/

namespace Glossa

/-- How the values of a page are formatted. -/
structure Formatter where
  locale : Locale
  /-- The name of the zone of the client, as the client gave it. -/
  clientZone : Option Text
  serverZone : Zone
  /-- The backend, if there is one. -/
  backend : Option Backend

/-- The function of a category. -/
inductive FormatFunction where
  | number (write : Float → Text)
  | currency (write : Float → (code : Option Text) → Text)
  | instant (write : Instant → (pattern : Option Text) → Text)

namespace Formatter

/-- Whether a backend does the writing. -/
def isNative (f : Formatter) : Bool := f.backend.isSome

/-- The currency of the region of the locale. -/
def currencyOfRegion (f : Formatter) : Currency := Currency.ofRegion f.locale.region

/-- The zone of the client. A name that is no zone means the zone of the server; without a name it is the last zone of
the region, if the region has any. -/
def localZone (f : Formatter) (b : Backend) : Zone :=
  match f.clientZone with
  | some name => (Zone.named? name).getD f.serverZone
  | none => (b.zones f.locale.region).getLast?.getD f.serverZone

/-! ## Without a backend -/

/-- A number with two places in the style of a region, without its sign. -/
def plainFixed (c : Currency) (f : Fixed) : Text :=
  f.join (c.grouping.write c.separator.toList f.whole) c.point.toList

/-- The sign of a number. -/
def plainSign (f : Fixed) : Text := if f.negative then ['-'] else []

/-- A number in the style of a region. -/
def plainNumber (c : Currency) (x : Float) : Text :=
  let f := Fixed.ofFloat x 2
  plainSign f ++ plainFixed c f

/-- The symbol of a code, the code itself if it has none; without a code the symbol of the region. -/
def plainSymbol (c : Currency) (code : Option Text) : Text :=
  match code with
  | none => c.symbol.toList
  | some code => ((Currency.ofCode? code).map (·.symbol.toList)).getD code

/-- An amount in the style of a region. -/
def plainCurrency (c : Currency) (x : Float) (code : Option Text) : Text :=
  let f := Fixed.ofFloat x 2
  let symbol := plainSymbol c code
  match c.position with
  | .before => plainSign f ++ symbol ++ plainFixed c f
  | .after => plainSign f ++ plainFixed c f ++ '\u00a0' :: symbol

/-! ## The functions of a formatter -/

/-- A number as text. -/
def number (f : Formatter) (x : Float) : Text :=
  match f.backend with
  | some b => b.decimal f.locale x
  | none => plainNumber f.currencyOfRegion x

/-- An amount as text; without a code it is in the currency of the region. -/
def currency (f : Formatter) (x : Float) (code : Option Text) : Text :=
  match f.backend with
  | some b => b.currency f.locale x (code.getD f.currencyOfRegion.code.toList)
  | none => plainCurrency f.currencyOfRegion x code

/-- An instant as text, by the pattern of its kind if none is given, in the zone of the client if it is `isLocal`. -/
def instant (f : Formatter) (kind : PatternKind) (isLocal : Bool) (t : Instant) (pattern : Option Text) : Text :=
  let pattern := pattern.getD (f.locale.defaultPattern kind)
  match f.backend with
  | some b => b.instant f.locale t (if isLocal then f.localZone b else f.serverZone) pattern
  | none => Backend.writeInstant f.locale t f.serverZone pattern

/-- The function of a category. -/
def format (f : Formatter) (c : Category) : FormatFunction :=
  match c with
  | .number => .number f.number
  | .currency => .currency f.currency
  | .date => .instant (f.instant .date false)
  | .dateLocal => .instant (f.instant .date true)
  | .time => .instant (f.instant .time false)
  | .timeLocal => .instant (f.instant .time true)

end Formatter

end Glossa
