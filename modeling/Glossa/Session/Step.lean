import Glossa.Session.Pages

/-!
# Steps of a session

A session as a machine: `Session.step` does one step and gives its answer with the session afterwards, and `Session.run`
does a row of steps.
-/

namespace Glossa.Session

/-- A step. -/
inductive Step where
  /-- Sets phrases of a language. -/
  | set (language : Text) (phrases : List (Text × Phrase))
  /-- Sets a function of a language. -/
  | setCallable (language name : Text) (call : List Text → Text)
  /-- Loads phrases of a language. -/
  | loadToml (language source : Text)
  | loadJson (language source : Text)
  | setDebug (debug : Bool)
  /-- Replaces the data known in every context. -/
  | setData (data : Context)
  /-- Changes the delimiters of slots. -/
  | setDelimiters (d : Delimiters)
  /-- Asks whether a function and an attribute have a name. -/
  | has (name : Text)
  | phrase (key : Text) (count : Option Text) (context : Context)
  | number (expression : Text) (context : Context)
  | currency (expression : Text) (code : Option Text) (context : Context)
  /-- Writes an instant in the category with a name. -/
  | instant (category text : Text) (pattern : Option Text) (context : Context)
  | instantOf (text : Text) (context : Context)
  | call (name : Text) (arguments : Option Text)
  | render (hold : Hold) (page : Text) (context : Context)
  | translate (hold : Hold) (page : Text)

/-- The answer to a step. -/
inductive Answer where
  /-- Nothing to say. -/
  | done
  | fault (f : Fault)
  | text (t : Text)
  | instant (t : Instant)
  /-- Whether a function and an attribute have the name. -/
  | known (isFunction isAttribute : Bool)
  /-- A page or why there is none, and the delimiters afterwards. -/
  | page (result : Except Fault Text) (d : Delimiters)

namespace Answer

/-- A text, or why there is none. -/
def ofResult : Except Fault Text → Answer
  | .ok t => text t
  | .error f => fault f

end Answer

/-- The session with a loaded catalogue, or as it was if there is none. -/
def loaded (s : Session) : Except LoadFault Catalogue → Answer × Session
  | .ok c => (.done, { s with catalogue := c })
  | .error f => (.fault (.load f), s)

/-- Does a step. -/
def step (s : Session) : Step → Answer × Session
  | .set language phrases => (.done, { s with catalogue := s.catalogue.set language phrases })
  | .setCallable language name f => (.done, { s with catalogue := s.catalogue.setCallable language name f })
  | .loadToml language source => s.loaded (s.catalogue.loadToml language source)
  | .loadJson language source => s.loaded (s.catalogue.loadJson language source)
  | .setDebug debug => (.done, { s with debug })
  | .setData data => (.done, { s with data })
  | .setDelimiters d => (.done, HoldsDelimiters.set d s)
  | .has name => (.known (s.registry.hasFunction name) (s.registry.hasAttribute name), s)
  | .phrase key count context => (.text (s.phrase key count context), s)
  | .number expression context => (.ofResult (s.number expression context), s)
  | .currency expression code context => (.ofResult (s.currency expression code context), s)
  | .instant category text pattern context =>
    match Category.ofName? category with
    | some c => (.ofResult (s.instant c text pattern context), s)
    | none => (.fault (.category category), s)
  | .instantOf text context =>
    match s.instantOf text context with
    | .ok t => (.instant t, s)
    | .error f => (.fault f, s)
  | .call name arguments => (.ofResult (s.call name arguments), s)
  | .render hold page context => (.page (s.render hold page context) s.delimiters, s)
  | .translate hold page =>
    let (result, after) := s.translate hold page
    (.page result after.delimiters, after)

/-- Does steps one after the other. -/
def run (s : Session) : List Step → List Answer
  | [] => []
  | step :: steps =>
    let (answer, after) := s.step step
    answer :: run after steps

end Glossa.Session
