import Glossa.Text.Basic

/-!
# Arguments

The arguments of a call are separated by commas and trimmed.
-/

namespace Glossa.Arguments

/-- The trimmed arguments; a blank list has none. -/
def split (s : Text) : List Text := if s.trim = [] then [] else (s.splitOn ',').map Text.trim

/-- The first argument and the text after the first comma, both trimmed. -/
def splitFirst (s : Text) : Text × Option Text :=
  match Text.cut? [','] s with
  | some (first, rest) => (first.trim, some rest.trim)
  | none => (s.trim, none)

end Glossa.Arguments
