import Glossa.Arguments
import Glossa.Page.Element
import Glossa.Page.Slot
import Glossa.Placeholder
import Glossa.Value

/-!
# Rendering pages

Fills in a page: first the elements with directives, then the slots, and at last the placeholders that calls have left. The
first call or directive that fails is the result of all.
-/

namespace Glossa.Page

variable {ε : Type}

/-- What a call or an attribute does: from a text, what else it is given, and a context. A call is given its first argument
and the text of the others, an attribute the text of its element and its value. -/
abbrev Directive (ε : Type) := Text → Option Text → Context → Except ε Text

/-- The functions and attributes that pages can use. -/
structure Registry (ε : Type) where
  functions : List (Text × Directive ε)
  attributes : List (Text × Directive ε)

namespace Registry

/-- Whether a function has the name. -/
def hasFunction (r : Registry ε) (name : Text) : Bool := (r.functions.lookup name).isSome

/-- Whether an attribute has the name. -/
def hasAttribute (r : Registry ε) (name : Text) : Bool := (r.attributes.lookup name).isSome

/-- What fills a slot: the answer to a call of a function that is there, else the value of a name of the context. -/
def fill (r : Registry ε) (context : Context) (inner : Text) : Except ε (Option Text) :=
  let inner := inner.trim
  let called := (Call.read? inner).bind fun call => (r.functions.lookup call.name).map fun f => (f, call.arguments)
  match called with
  | some (f, arguments) =>
    let (first, rest) := Arguments.splitFirst arguments
    (f first rest context).map some
  | none => .ok ((context.get? inner).map Value.toText)

/-- What takes the place of an element: the element with the answer of its attribute as content. The attribute has to be
there, and the tags have to have the same name. -/
def rewrite (r : Registry ε) (d : Delimiters) (context : Context) (e : Element) : Except ε (Option Text) :=
  match r.attributes.lookup e.directive with
  | none => .ok none
  | some f =>
    if e.tag = e.close then do
      let body ← fillSlots d (r.fill context) e.body
      let content ← f body.trim e.value context
      return some (e.writeWith content)
    else .ok none

end Registry

/-- The page filled in. -/
def render (r : Registry ε) (d : Delimiters) (page : Text) (context : Context) : Except ε Text := do
  let page ← rewriteElements (r.rewrite d context) page
  let page ← fillSlots d (r.fill context) page
  return Placeholder.unwrapAll page

end Glossa.Page
