import Glossa.Text.Basic

/-!
# Language ids

What names a language in a tag: the language itself, then optionally a script, a region and variants. `LanguageId.read?`
takes these parts, given in lower case, from the front of a list.
-/

namespace Glossa

/-- A language as it is written in one place and one script. Parts that are not given are empty. -/
structure LanguageId where
  /-- The language in lower case. -/
  language : Text
  /-- The script with its first letter in upper case. -/
  script : Text := []
  /-- The region in upper case. -/
  region : Text := []
  /-- The first of the variants in alphabetical order, in lower case. -/
  variant : Text := []
deriving DecidableEq, Repr

namespace LanguageId

/-- Two or three letters. -/
def isLanguage (s : Text) : Bool := s.all Char.isAlpha && 2 ≤ s.length && s.length ≤ 3

/-- Four letters. -/
def isScript (s : Text) : Bool := s.all Char.isAlpha && s.length == 4

/-- Two letters or three digits. -/
def isRegion (s : Text) : Bool :=
  (s.all Char.isAlpha && s.length == 2) || (s.all Char.isDigit && s.length == 3)

/-- Five to eight letters or digits, or four that start with a digit. -/
def isVariant (s : Text) : Bool :=
  s.all Char.isAlphanum &&
    ((5 ≤ s.length && s.length ≤ 8) || (s.length == 4 && s.head?.elim false Char.isDigit))

/-- The first part, if it passes a test, and the other parts. -/
def takePart (test : Text → Bool) : List Text → Text × List Text
  | part :: rest => if test part then (part, rest) else ([], part :: rest)
  | [] => ([], [])

/-- Whether no part is given twice. -/
def distinct : List Text → Bool
  | [] => true
  | part :: rest => !rest.contains part && distinct rest

/-- Whether the first text comes before the second one in a dictionary. -/
def precedes : Text → Text → Bool
  | _, [] => false
  | [], _ :: _ => true
  | c :: s, d :: t => c.toNat < d.toNat || (c == d && precedes s t)

/-- The first part in alphabetical order, empty when there are no parts. -/
def leastPart : List Text → Text
  | [] => []
  | [part] => part
  | part :: next :: rest =>
    let least := leastPart (next :: rest)
    if precedes part least then part else least

/-- The first letter in upper case. -/
def capitalised : Text → Text
  | [] => []
  | c :: s => c.toUpper :: s

/-- The id at the front of the parts and the parts after it. There is none if the first part is not a language or a
variant is repeated. -/
def read? : List Text → Option (LanguageId × List Text)
  | [] => none
  | language :: parts =>
    let (script, afterScript) := takePart isScript parts
    let (region, afterRegion) := takePart isRegion afterScript
    let variants := afterRegion.takeWhile isVariant
    if isLanguage language && distinct variants then
      some (⟨language, capitalised script, region.upper, leastPart variants⟩, afterRegion.dropWhile isVariant)
    else none

/-- The parts with hyphens between them. -/
def text (id : LanguageId) : Text :=
  Text.join ['-'] ([id.language, id.script, id.region, id.variant].filter fun part => !part.isEmpty)

end LanguageId

end Glossa
