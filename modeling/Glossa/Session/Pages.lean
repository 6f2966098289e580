import Glossa.Page.Render
import Glossa.Session.Basic

/-!
# Pages of a session

What pages can call in a session, and how a session renders pages and translates marked phrases. Calls leave their answers
in placeholders, attributes give them as they are.
-/

namespace Glossa.Session

open Page (Directive Registry)

/-! ## Directives -/

/-- The categories of instants. -/
def instantCategories : List Category := [.date, .dateLocal, .time, .timeLocal]

/-- The kind of placeholder for the instants of a category. -/
def placeholderKind (c : Category) : Placeholder.Kind :=
  match c.patternKind? with
  | some .time => .time
  | _ => .date

/-- A directive whose answer is in a placeholder. -/
def wrapped (kind : Placeholder.Kind) (f : Directive Fault) : Directive Fault :=
  fun text rest context => (f text rest context).map kind.wrap

/-- The name of the directive for a category. -/
def directiveName (c : Category) : Text := "i18n-".toList ++ c.name

/-- The directives that are functions and attributes, each with the kind of its placeholder. -/
def directives (s : Session) : List (Text × Placeholder.Kind × Directive Fault) :=
  (directiveName .number, .number, fun text _ context => s.number text context) ::
  (directiveName .currency, .currency, fun text code context => s.currency text code context) ::
  instantCategories.map fun c =>
    (directiveName c, placeholderKind c, fun text pattern context => s.instant c text pattern context)

/-- What pages of the session can use. -/
def registry (s : Session) : Registry Fault where
  functions :=
    ("t".toList, fun key count context => .ok (s.phrase key count context)) ::
    ("i18n-evaluate".toList, fun name arguments _ =>
      (s.call name arguments).map fun answer => Placeholder.write ⟨name.trim, answer⟩) ::
    s.directives.map fun (name, kind, f) => (name, wrapped kind f)
  attributes := s.directives.map fun (name, _, f) => (name, f)

/-! ## Rendering -/

/-- How somebody else uses the pages meanwhile. -/
inductive Hold where
  | free
  /-- For reading. -/
  | shared
  /-- For changing. -/
  | exclusive
deriving DecidableEq, Repr

/-- A page filled in with the delimiters of the session. -/
def fillPage (s : Session) (page : Text) (context : Context) : Except Fault Text :=
  Page.render s.registry s.delimiters page context

/-- A page filled in, unless somebody is changing the pages. -/
def render (s : Session) (hold : Hold) (page : Text) (context : Context) : Except Fault Text :=
  if hold = .exclusive then .error .busy else s.fillPage page (s.known context)

/-- The phrases of the active table as a context. -/
def phrases (s : Session) : Context :=
  match s.catalogue.activeTable? s.language with
  | some table => ⟨table.entries.filterMap fun (key, entry) => entry.text?.map fun t => (key, .text t)⟩
  | none => .empty

/-- A page with every marked key replaced by its phrase, and the session afterwards. Nobody else may use the pages, since
they have the markers as delimiters meanwhile. -/
def translate (s : Session) (hold : Hold) (page : Text) : Except Fault Text × Session :=
  if hold = .free then
    HoldsDelimiters.withDelimiters s.markers.delimiters (fun inner => (inner.fillPage page s.phrases, inner)) s
  else (.error .busy, s)

end Glossa.Session
