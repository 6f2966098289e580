import Glossa.Catalogue.Table
import Glossa.Value

/-!
# Catalogues

A catalogue holds the phrases of each language. Its languages and the keys of each language keep the order in which they
came; the first language stands in for what the others lack.
-/

namespace Glossa

/-- What a key of a language stands for. -/
inductive Entry where
  /-- A phrase. -/
  | text (s : Text)
  /-- A function of some arguments. -/
  | callable (call : List Text → Text)

namespace Entry

/-- The phrase of an entry that is no function. -/
def text? : Entry → Option Text
  | text s => some s
  | callable _ => none

end Entry

/-- What is said for a key: one phrase, or one for a single thing and one for several. -/
inductive Phrase where
  | single (s : Text)
  | pair (one many : Text)
deriving DecidableEq, Repr

/-- What is added to the key of a phrase for several things. -/
def pluralSuffix : Text := ".plural".toList

/-- The key of the phrase for several things. -/
def pluralOf (key : Text) : Text := key ++ pluralSuffix

/-- The key to use when a count is given: a number other than one asks for the phrase for several things. -/
def pluralKey (key : Text) (count : Option Text) : Text :=
  match count.bind readNumber? with
  | some n => if n != 1.0 then pluralOf key else key
  | none => key

/-- The key of the single thing, if the key is one for several things, else the key itself. -/
def singularOf (key : Text) : Text := (Text.before? pluralSuffix key).getD key

namespace Phrase

/-- The entries that a phrase makes for its key. -/
def entries (key : Text) : Phrase → List (Text × Entry)
  | single s => [(key, .text s)]
  | pair one many => [(pluralOf key, .text many), (key, .text one)]

end Phrase

/-- The phrases and functions of each language. -/
structure Catalogue where
  /-- The languages in the order in which they came. -/
  tables : Table (Table Entry)

namespace Catalogue

/-- The catalogue without languages. -/
def empty : Catalogue := ⟨.empty⟩

/-- The languages in order. -/
def languages (c : Catalogue) : List Text := c.tables.names

/-- Whether there is no language. -/
def isEmpty (c : Catalogue) : Bool := c.tables.isEmpty

/-- The entry of a key of a language. -/
def get? (c : Catalogue) (language key : Text) : Option Entry := (c.tables.get? language).bind (·.get? key)

/-! ## Writing -/

/-- The catalogue after writes to a language, which is there from now on even if nothing is written. -/
def write (c : Catalogue) (language : Text) (entries : List (Text × Entry)) : Catalogue :=
  ⟨c.tables.insert language (((c.tables.get? language).getD .empty).insertAll entries)⟩

/-- The catalogue with phrases for a language. -/
def set (c : Catalogue) (language : Text) (phrases : List (Text × Phrase)) : Catalogue :=
  c.write language (phrases.flatMap fun (key, phrase) => phrase.entries key)

/-- The catalogue with a function for a language. -/
def setCallable (c : Catalogue) (language name : Text) (call : List Text → Text) : Catalogue :=
  c.write language [(name, .callable call)]

/-- The catalogue with the members of a document for a language. A member that is there several times counts at its first
place with its last phrase. -/
def load (c : Catalogue) (language : Text) (members : List (Text × Phrase)) : Catalogue :=
  c.set language (Table.ofList members).entries

/-! ## Reading -/

/-- The table of the language that came first. -/
def first? (c : Catalogue) : Option (Table Entry) := c.tables.first?

/-- The table that serves a language: its own if it holds anything, else that of the first language. -/
def activeTable? (c : Catalogue) (language : Text) : Option (Table Entry) :=
  match c.tables.get? language with
  | some table => if table.isEmpty then c.first? else some table
  | none => c.first?

/-- What is shown for a missing phrase while debugging. -/
def missing (key : Text) : Text := "missing translation: ".toList ++ key

/-- The phrase of a key: that of the language, else that of the first language, else the key as for a single thing. While
debugging, the language has to have the phrase itself. Functions are no phrases. -/
def resolve (c : Catalogue) (language key : Text) (debug : Bool) : Text :=
  match (c.get? language key).bind Entry.text? with
  | some s => s
  | none =>
    if debug then missing key
    else ((c.first?.bind (·.get? key)).bind Entry.text?).getD (singularOf key)

end Catalogue

end Glossa
