import Glossa.Document.Json
import Glossa.Document.Toml.Reader

/-!
# Loading phrases

Adds the phrases of a document to a catalogue. A document that cannot be read, or that holds anything but phrases, leaves
the catalogue as it is.
-/

namespace Glossa

/-- Why a document gave no phrases. -/
inductive LoadFault where
  /-- A TOML document for a language. -/
  | toml (language : Text)
  | json
deriving DecidableEq, Repr

namespace LoadFault

/-- The message of a fault. -/
def message : LoadFault → Text
  | toml language => "invalid translations: invalid TOML for ".toList ++ language
  | json => "json conversion error".toList

end LoadFault

namespace Toml

/-- The phrase that a value writes: a string, or a list of two strings. -/
def Value.phrase? : Value → Option Phrase
  | .text s _ => some (.single s)
  | .list [.text one _, .text many _] => some (.pair one many)
  | _ => none

/-- The phrases of a document all of whose members are phrases. -/
def phrases? (source : Text) : Option (List (Text × Phrase)) :=
  (members? source).bind fun ms => ms.mapM fun (key, value) => value.phrase?.map fun phrase => (key, phrase)

end Toml

namespace Catalogue

/-- The catalogue with the phrases of a TOML document. -/
def loadToml (c : Catalogue) (language source : Text) : Except LoadFault Catalogue :=
  match Toml.phrases? source with
  | some members => .ok (c.load language members)
  | none => .error (.toml language)

/-- The catalogue with the phrases of a JSON document. -/
def loadJson (c : Catalogue) (language source : Text) : Except LoadFault Catalogue :=
  match Json.members? source with
  | some members => .ok (c.load language members)
  | none => .error .json

end Catalogue

end Glossa
