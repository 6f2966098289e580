import Glossa.Number.Literal
import Glossa.Number.Shortest

/-!
# Values and contexts

A value is a number or a text and can be seen as either. A context gives values to names.
-/

namespace Glossa

/-- A value that a page can name. -/
inductive Value where
  | number (x : Float)
  | text (s : Text)

namespace Value

/-- The value as a number. A text counts as a number when it is a literal up to white space at its ends. -/
def toNumber? : Value → Option Float
  | number x => some x
  | text s => readNumber? s

/-- The value as text. -/
def toText : Value → Text
  | number x => Shortest.text x
  | text s => s

end Value

/-- Values by name. Of two bindings of a name the first one counts. -/
structure Context where
  /-- The bindings. -/
  bindings : List (Text × Value)

namespace Context

/-- The context without names. -/
def empty : Context := ⟨[]⟩

/-- The value of a name. -/
def get? (context : Context) (name : Text) : Option Value := context.bindings.lookup name

/-- Both contexts together; a name that both bind has its value in `upper`. -/
def merge (upper lower : Context) : Context := ⟨upper.bindings ++ lower.bindings⟩

theorem get?_merge (upper lower : Context) (name : Text) :
    (upper.merge lower).get? name = (upper.get? name).or (lower.get? name) := by
  simp [merge, get?, List.lookup_append]

/-- The text of the value of a name, or the name itself when it has no value. -/
def resolve (context : Context) (name : Text) : Text :=
  match context.get? name with
  | some value => value.toText
  | none => name

end Context

end Glossa
