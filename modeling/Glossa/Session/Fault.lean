import Glossa.Catalogue.Load
import Glossa.Expression
import Glossa.Format.Category

/-!
# Faults of a session

What can go wrong in a session, with the messages.
-/

namespace Glossa

/-- Why a step of a session gave no answer. A missing phrase is no fault. -/
inductive Fault where
  /-- An expression has no value. -/
  | expression (f : ExpressionFault)
  /-- No category has the name, or the category is not that of an instant. -/
  | category (name : Text)
  /-- A text names no instant. -/
  | dateText (s : Text)
  /-- No function has the name. -/
  | missingFunction (name : Text)
  /-- A phrase has the name, not a function. -/
  | notCallable (name : Text)
  /-- The pages are in use. -/
  | busy
  /-- A document gave no phrases. -/
  | load (f : LoadFault)
deriving DecidableEq, Repr

namespace Fault

/-- The message of the fault inside, if there is one. -/
def inner? : Fault → Option Text
  | expression f => some f.message
  | category name => some (Category.unknownMessage name)
  | _ => none

/-- The message of a fault. -/
def message : Fault → Text
  | expression f => "arithmetic error: ".toList ++ f.message
  | category name => Category.unknownMessage name
  | dateText s => "unable to parse date ".toList ++ s.quoted
  | missingFunction name => "no translation function named ".toList ++ name.quoted
  | notCallable name => "translation entry ".toList ++ name.quoted ++ " is not a function".toList
  | busy => "template engine is already in use".toList
  | load f => f.message

end Fault

end Glossa
