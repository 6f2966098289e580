import Glossa.Text.Basic

/-!
# Date and time patterns

A pattern is a row of fields, each a letter repeated, and literal text. Text between single quotes is literal, and two
quotes together stand for one.
-/

namespace Glossa

/-- A part of a pattern. -/
inductive PatternToken where
  /-- A letter and how often it stands in a row. -/
  | field (letter : Char) (count : Nat)
  /-- Text that stays as it is. -/
  | literal (s : Text)
deriving DecidableEq, Repr

namespace Pattern

/-- The single quote. -/
def quote : Char := '\x27'

/-- A character that is neither a letter from A to Z in either case nor a quote. -/
def isBare (c : Char) : Bool := !c.isAlpha && c != quote

/-- The text up to the quote that closes it, with doubled quotes made single, and the text after that quote. A quote that
is missing counts as the end of the text. -/
def takeQuoted : Text → Text × Text
  | [] => ([], [])
  | c :: s =>
    if c = quote then
      match s with
      | d :: s' =>
        if d = quote then
          let (inner, rest) := takeQuoted s'
          (quote :: inner, rest)
        else ([], s)
      | [] => ([], [])
    else
      let (inner, rest) := takeQuoted s
      (c :: inner, rest)

theorem takeQuoted_length_le (s : Text) : (takeQuoted s).2.length ≤ s.length := by
  fun_induction takeQuoted s <;> simp_all <;> omega

/-- The parts of a pattern. Quoted text is a part of its own, even when it is empty. -/
def tokens : Text → List PatternToken
  | [] => []
  | c :: s =>
    have := takeQuoted_length_le s
    have : s.tail.length ≤ s.length := by simp
    have := (List.dropWhile_sublist (· == c) (l := s)).length_le
    have := (List.dropWhile_sublist isBare (l := s)).length_le
    if c.isAlpha then .field c ((s.takeWhile (· == c)).length + 1) :: tokens (s.dropWhile (· == c))
    else if c = quote then
      if s.head? = some quote then .literal [quote] :: tokens s.tail
      else .literal (takeQuoted s).1 :: tokens (takeQuoted s).2
    else .literal (c :: s.takeWhile isBare) :: tokens (s.dropWhile isBare)
termination_by s => s.length

end Pattern

end Glossa
