import Glossa.Text.Basic
import Glossa.Text.WordChar

/-!
# Names in pages

Tags, and functions that a page calls, have names of word characters and hyphens.
-/

namespace Glossa.Page

/-- A character of a name. -/
def isNameChar (c : Char) : Bool := Text.wordRanges.holds c || c = '-'

/-- The longest name at the start of a text, which may be empty, and the text after it. -/
def takeName (s : Text) : Text × Text := (s.takeWhile isNameChar, s.dropWhile isNameChar)

theorem takeName_append (s : Text) : (takeName s).1 ++ (takeName s).2 = s := List.takeWhile_append_dropWhile

/-- The name of a tag, which starts with a letter from A to Z in either case, and the text after it. -/
def tagName? (s : Text) : Option (Text × Text) :=
  if s.head?.any Char.isAlpha then some (takeName s) else none

theorem eq_of_tagName? {s name rest : Text} (h : tagName? s = some (name, rest)) : s = name ++ rest := by
  unfold tagName? at h
  split at h
  · have := takeName_append s
    simp only [Option.some.injEq] at h
    rw [h] at this
    exact this.symm
  · simp at h

end Glossa.Page
