import Glossa.Locale.LanguageId

/-!
# Language tags

A tag is a language id and extensions, all parts separated by hyphens. An extension starts with a single letter or digit:
`u` for keywords, `t` for the language that a text was transformed from, `x` for private use, any other for parts without
a meaning here. Of all keywords only the numbering system, `nu`, matters afterwards; the other rules decide whether a tag
is well formed.
-/

namespace Glossa

/-- What a well-formed tag says about numbers. -/
structure LanguageTag where
  /-- The language, its script and its region. -/
  id : LanguageId
  /-- The numbering system that the keywords ask for. -/
  numbering : Option Text
deriving DecidableEq, Repr

namespace LanguageTag

/-- A part of an extension: letters or digits within given lengths. -/
def isPart (least greatest : Nat) (s : Text) : Bool :=
  s.all Char.isAlphanum && least ≤ s.length && s.length ≤ greatest

/-- A single letter or digit, which starts an extension. -/
def isSingle (s : Text) : Bool := s.all Char.isAlphanum && s.length == 1

/-- The key of a keyword: a letter or digit and a letter. -/
def isKey (s : Text) : Bool :=
  match s with
  | [a, b] => a.isAlphanum && b.isAlpha
  | _ => false

/-- The key of a field of a transformation: a letter and a digit. -/
def isFieldKey (s : Text) : Bool :=
  match s with
  | [a, b] => a.isAlpha && b.isDigit
  | _ => false

/-- Attributes and keywords, in parts of three to eight letters or digits after attributes and keys. -/
def isKeywords (parts : List Text) : Bool := parts ≠ [] && parts.all fun p => isKey p || isPart 3 8 p

/-- Fields, each of a key and one value at least. -/
def isFields : List Text → Bool
  | [] => true
  | key :: parts =>
    isFieldKey key && parts.head?.elim false (isPart 3 8) && isFields (parts.dropWhile (isPart 3 8))
termination_by parts => parts.length
decreasing_by exact Nat.lt_succ_of_le (List.dropWhile_sublist _).length_le

/-- A language, fields, or both in this order. -/
def isTransformation (parts : List Text) : Bool :=
  if parts.head?.elim false LanguageId.isLanguage then
    (LanguageId.read? parts).elim false fun (_, fields) => isFields fields
  else parts ≠ [] && isFields parts

/-- Whether parts may follow the letter or digit that starts an extension. -/
def isBody (single : Text) (parts : List Text) : Bool :=
  if single = ['u'] then isKeywords parts
  else if single = ['t'] then isTransformation parts
  else parts ≠ [] && parts.all (isPart 2 8)

/-- The value of the first keyword `nu`, if it is a single part. The part `true` stands for no value. -/
def numberingOf : List Text → Option Text
  | [] => none
  | part :: rest =>
    if part = ['n', 'u'] then
      match (rest.takeWhile fun p => p.length != 2).filter (· != ['t', 'r', 'u', 'e']) with
      | [system] => some system
      | _ => none
    else numberingOf rest

/-- The parts from the next single character on. -/
def skipParts (parts : List Text) : List Text := parts.dropWhile fun p => p.length != 1

theorem skipParts_length_le (parts : List Text) : (skipParts parts).length ≤ parts.length :=
  (List.dropWhile_sublist _).length_le

/-- The numbering system in the extensions, where the letters and digits in `seen` have started extensions before; `none`
if the extensions are malformed or two of them start alike. Private use runs to the end. -/
def extensions? (seen : List Text) : List Text → Option (Option Text)
  | [] => some none
  | single :: parts =>
    let own := parts.takeWhile fun p => p.length != 1
    if !isSingle single || seen.contains single then none
    else if single = ['x'] then if parts ≠ [] && parts.all (isPart 1 8) then some none else none
    else if isBody single own then
      (extensions? (single :: seen) (skipParts parts)).map fun later =>
        if single = ['u'] then numberingOf own else later
    else none
termination_by parts => parts.length
decreasing_by exact Nat.lt_succ_of_le (skipParts_length_le parts)

/-- The tag that a text writes in any case. -/
def read? (s : Text) : Option LanguageTag :=
  match LanguageId.read? (s.lower.splitOn '-') with
  | some (id, parts) => (extensions? [] parts).map fun numbering => ⟨id, numbering⟩
  | none => none

end LanguageTag

end Glossa
