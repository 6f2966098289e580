import Glossa.Arguments
import Glossa.Delimiters
import Glossa.Format.Formatter
import Glossa.Locale.Preference
import Glossa.Session.Fault
import Glossa.Settings
import Glossa.Time.DateText

/-!
# Sessions

A session serves one locale: it answers with phrases of its language and with numbers, amounts, dates and times in the
style of its locale. Texts in its questions may name values of a context; the data of the session is known in every one.
-/

namespace Glossa

/-- Reads a date text, seen from an instant in a zone. -/
abbrev DateReader := Text → Instant → Zone → Option Instant

/-- A session. -/
structure Session where
  formatter : Formatter
  /-- How date texts are read. -/
  dates : DateReader
  /-- The present. -/
  now : Instant
  /-- The markers of phrases. -/
  markers : Markers
  catalogue : Catalogue
  /-- Missing phrases are shown as such. -/
  debug : Bool
  /-- Values known in every context. -/
  data : Context
  /-- The delimiters of slots. -/
  delimiters : Delimiters

namespace Session

instance : HoldsDelimiters Session where
  get s := s.delimiters
  set d s := { s with delimiters := d }
  get_set _ _ := rfl

/-! ## Starting -/

/-- A session without phrases. -/
def start (formatter : Formatter) (dates : DateReader) (now : Instant) (markers : Markers) (debug : Bool) : Session :=
  ⟨formatter, dates, now, markers, .empty, debug, .empty, .page⟩

/-- A session for a locale, with the standard backend and the server in universal time. -/
def forLocale (tag : Text) (clientZone : Option Text) (now : Instant) : Session :=
  start ⟨.ofTag tag, clientZone, .utc, some .standard⟩ DateText.read? now .standard false

/-- A session for the language that a client prefers. -/
def forPreference (header : Text) (clientZone : Option Text) (now : Instant) : Session :=
  forLocale (Preference.localeTag header) clientZone now

/-- A session with settings. -/
def forSettings (settings : Settings) (now : Instant) : Session :=
  start ⟨.ofTag settings.locale, settings.clientZone, .utc, if settings.native then some .standard else none⟩
    DateText.read? now settings.markers settings.debug

/-! ## Asking -/

/-- The language of the session. -/
def language (s : Session) : Text := s.formatter.locale.language

/-- A context with the data of the session under it. -/
def known (s : Session) (context : Context) : Context := context.merge s.data

/-- The phrase of a key. A count, or a name that stands for one, chooses between one thing and several. -/
def phrase (s : Session) (key : Text) (count : Option Text) (context : Context) : Text :=
  let count := count.map fun count => (s.known context).resolve count.trim
  s.catalogue.resolve s.language (pluralKey key.trim count) s.debug

/-- The value of an expression. -/
def evaluate (s : Session) (expression : Text) (context : Context) : Except Fault Float :=
  (Expression.evaluate expression (s.known context)).mapError .expression

/-- The value of an expression as a number of the locale. -/
def number (s : Session) (expression : Text) (context : Context) : Except Fault Text :=
  (s.evaluate expression context).map s.formatter.number

/-- The value of an expression as an amount of a currency. Without a code, or with a blank one, it is that of the
region. -/
def currency (s : Session) (expression : Text) (code : Option Text) (context : Context) : Except Fault Text :=
  (s.evaluate expression context).map fun amount =>
    let code := code.map fun code => (s.known context).resolve code.trim
    s.formatter.currency amount (code.filter (· ≠ []))

/-- The instant that a text stands for: a number counts seconds, a blank text means now, and any other text is read as a
date text in the zone of the server. -/
def instantOf (s : Session) (text : Text) (context : Context) : Except Fault Instant :=
  let text := ((s.known context).resolve text.trim).trim
  match readNumber? text with
  | some seconds => .ok (Binary.clampToInt64 seconds)
  | none =>
    if text = [] then .ok s.now
    else
      match s.dates text s.now s.formatter.serverZone with
      | some t => .ok t
      | none => .error (.dateText text)

/-- The instant that a text stands for, written in a category of instants. A blank pattern is none. -/
def instant (s : Session) (c : Category) (text : Text) (pattern : Option Text) (context : Context) :
    Except Fault Text :=
  match s.formatter.format c with
  | .instant write =>
    (s.instantOf text context).map fun t => write t ((pattern.map Text.trim).filter (· ≠ []))
  | _ => .error (.category c.name)

/-- The answer of a function of the active table to arguments. -/
def call (s : Session) (name : Text) (arguments : Option Text) : Except Fault Text :=
  let name := name.trim
  match (s.catalogue.activeTable? s.language).bind (·.get? name) with
  | some (.callable f) => .ok (f (Arguments.split (arguments.getD [])))
  | some (.text _) => .error (.notCallable name)
  | none => .error (.missingFunction name)

end Session

end Glossa
