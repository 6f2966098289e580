import Glossa.Locale.Basic
import Glossa.Number.Literal

/-!
# Preferred languages

A client names the languages that it prefers, each with a quality behind a semicolon, as in `de;q=0.5, fr`. The languages
are taken in descending order of quality; equal ones keep their order.
-/

namespace Glossa.Preference

/-! ## Qualities -/

/-- The rank of a quality among the 32-bit floats, or nothing if the quality is undefined. -/
abbrev Quality := Option Int

namespace Quality

/-- The rank with a sign. -/
def ranked (negative : Bool) (code : Binary.Code) : Quality := some (if negative then -(code : Int) else code)

/-- The highest quality that is usual, one. -/
def full : Quality := ranked false (Binary.Format.single.nearest 1 1)

/-- The quality that a text writes: a number literal, infinity or the undefined value. Any other text means zero. -/
def ofText (s : Text) : Quality :=
  let (negative, word) := Literal.takeSign s
  if Text.sameIgnoringCase word "nan".toList then none
  else if Text.sameIgnoringCase word "inf".toList || Text.sameIgnoringCase word "infinity".toList then
    ranked negative Binary.Format.single.infinity
  else
    match Literal.read? s with
    | some l => ranked l.negative (Literal.nearestDecimalIn .single l.mantissa l.scale)
    | none => ranked false 0

/-- Whether the first quality is the lower one. An undefined quality is neither lower nor higher than any. -/
def lower (a b : Quality) : Bool :=
  match a, b with
  | some x, some y => x < y
  | _, _ => false

end Quality

/-! ## Languages -/

/-- A language with its quality. -/
structure Choice where
  name : Text
  quality : Quality
deriving DecidableEq, Repr

/-- The quality in a parameter `name=quality`, whatever its name; a parameter without an equals sign means zero. -/
def Quality.ofParameter (s : Text) : Quality := .ofText (((Text.cut? ['='] s).map (·.2)).getD [])

/-- A language as it is written between commas, with its first parameter if it has any. -/
def Choice.ofText (s : Text) : Choice :=
  match s.splitOn ';' with
  | name :: parameter :: _ => ⟨name, .ofParameter parameter⟩
  | [name] => ⟨name, .full⟩
  | [] => ⟨[], .full⟩

/-- Puts a choice into a row before the choices at its end that are of lower quality. The row is given from its end. -/
def place (c : Choice) : List Choice → List Choice
  | [] => [c]
  | d :: ds => if d.quality.lower c.quality then d :: place c ds else c :: d :: ds

/-- The choices in descending order of quality. -/
def ranked (cs : List Choice) : List Choice := (cs.foldl (fun placed c => place c placed) []).reverse

/-- The languages that a header names, the most preferred one first. Spaces mean nothing anywhere in it. -/
def languages (header : Text) : List Text :=
  let choices := ((header.filter (· ≠ ' ')).splitOn ',').map Choice.ofText
  ((ranked choices).map (·.name)).filter (· ≠ [])

/-- The tag of the most preferred locale that is not any whatsoever, the default one if there is none. -/
def localeTag (header : Text) : Text := ((languages header).find? (· ≠ ['*'])).getD Locale.defaultTag

end Glossa.Preference
