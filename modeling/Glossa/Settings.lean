import Glossa.Delimiters
import Glossa.Document.Toml.Reader
import Glossa.Locale.Basic

/-!
# Settings

The settings of a session and their reading from a TOML document. A setting that is missing has its default; members that
are no settings are passed over.
-/

namespace Glossa

/-- Delimiters that can mark phrases. -/
structure Markers where
  delimiters : Delimiters
  opening_ne_nil : delimiters.opening ≠ []
  closing_ne_nil : delimiters.closing ≠ []
  opening_ne_closing : delimiters.opening ≠ delimiters.closing

/-- Why there are no settings. -/
inductive SettingsFault where
  /-- The document cannot be read, or a setting has a value of another kind. -/
  | document
  /-- A marker is empty. -/
  | emptyMarker
  /-- Both markers are the same. -/
  | sameMarkers (marker : Text)
deriving DecidableEq, Repr

namespace SettingsFault

/-- The message of a fault. The marker is shown as it is. -/
def message : SettingsFault → Text
  | document => "invalid configuration: invalid TOML".toList
  | emptyMarker => "invalid configuration: marker delimiters must not be empty".toList
  | sameMarkers marker =>
    "invalid configuration: open and close markers must differ, both are \x22".toList ++ marker ++ ['\x22']

end SettingsFault

namespace Markers

/-- The markers with given delimiters. -/
def ofDelimiters (d : Delimiters) : Except SettingsFault Markers :=
  if empty : d.opening = [] ∨ d.closing = [] then .error .emptyMarker
  else if same : d.opening = d.closing then .error (.sameMarkers d.opening)
  else .ok ⟨d, fun h => empty (.inl h), fun h => empty (.inr h), same⟩

/-- The markers of phrases when none are set. -/
def standard : Markers := ⟨.phrase, by decide, by decide, by decide⟩

end Markers

/-- Settings of a session. -/
structure Settings where
  /-- The tag of the locale. -/
  locale : Text
  /-- The name of the zone of the client. -/
  clientZone : Option Text
  /-- Missing phrases are shown as such. -/
  debug : Bool
  /-- The tables of the library are used for formatting. -/
  native : Bool
  markers : Markers

namespace Settings

/-- The settings when none are given. -/
def standard : Settings := ⟨Locale.defaultTag, none, false, true, .standard⟩

/-! ## Reading -/

/-- The text of a string that stands in the document just so. -/
def text? : Toml.Value → Option Text
  | .text s true => some s
  | _ => none

/-- A yes or no. -/
def flag? : Toml.Value → Option Bool
  | .flag b => some b
  | _ => none

/-- The value of a setting if it is there; a value that cannot be read is a fault. -/
def setting (read : Toml.Value → Option α) (ms : Toml.Members) (name : String) : Except SettingsFault (Option α) :=
  match ms.lookup name.toList with
  | none => .ok none
  | some v =>
    match read v with
    | some a => .ok (some a)
    | none => .error .document

/-- The members of a group of settings, which is a table or the list of all its settings in order. -/
def group (names : List String) : Toml.Value → Except SettingsFault Toml.Members
  | .table _ ms => .ok ms
  | .list items =>
    if items.length = names.length then .ok ((names.map String.toList).zip items) else .error .document
  | _ => .error .document

/-- The settings with those of the general group. A group without a flag for native formatting asks for it. -/
def withGeneral (s : Settings) (v : Toml.Value) : Except SettingsFault Settings := do
  let ms ← group ["locale", "client_timezone", "debug", "native"] v
  let locale ← setting text? ms "locale"
  let clientZone ← setting text? ms "client_timezone"
  let debug ← setting flag? ms "debug"
  let native ← setting flag? ms "native"
  return { s with locale := locale.getD s.locale, clientZone, debug := debug.getD false, native := native.getD true }

/-- The delimiters of the group of markers. -/
def markersOf (v : Toml.Value) : Except SettingsFault Delimiters := do
  let ms ← group ["open", "close"] v
  let opening ← setting text? ms "open"
  let closing ← setting text? ms "close"
  return ⟨opening.getD Delimiters.phrase.opening, closing.getD Delimiters.phrase.closing⟩

/-- The settings that the members of a document give. A value of the wrong kind is found before markers of the wrong
form. -/
def ofMembers (ms : Toml.Members) : Except SettingsFault Settings := do
  let s ← (ms.lookup "general".toList).elim (.ok standard) standard.withGeneral
  match ms.lookup "markers".toList with
  | none => return s
  | some v => return { s with markers := ← Markers.ofDelimiters (← markersOf v) }

/-- The settings that a document gives. A blank one gives the defaults. -/
def read (source : Text) : Except SettingsFault Settings :=
  if source.trim = [] then .ok standard
  else
    match Toml.members? source with
    | some ms => ofMembers ms
    | none => .error .document

end Settings

end Glossa
