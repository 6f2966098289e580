import Glossa.Text.Basic

/-!
# Values of TOML

The values of a document and the rules by which keys are added to its tables. A key is added once; a table grows only in
the way in which it came into being.
-/

namespace Glossa.Toml

/-- How a table came into being. -/
inductive Origin where
  /-- It stands in braces. -/
  | braces
  /-- It is part of a key with points. -/
  | dotted
  /-- It is part of the name of another table. -/
  | implied
  /-- It has a header of its own. -/
  | header
deriving DecidableEq, Repr

/-- A value. -/
inductive Value where
  /-- A string, and whether its text stands in the document just so. -/
  | text (s : Text) (verbatim : Bool)
  | flag (b : Bool)
  /-- A number. -/
  | number
  | list (items : List Value)
  | table (origin : Origin) (members : List (Text × Value))
  /-- The tables that share a header in double brackets. -/
  | tables (items : List (List (Text × Value)))

/-- The keys of a table with their values, in order. -/
abbrev Members := List (Text × Value)

namespace Members

/-- The members with a new value for a key that is there. -/
def replace (key : Text) (value : Value) (ms : Members) : Members :=
  ms.map fun (k, v) => if k = key then (k, value) else (k, v)

/-- The members with a value for a key with points. The parts in front of the last one are tables for such keys. -/
def add? : (path : List Text) → Value → Members → Option Members
  | [], _, _ => none
  | [key], value, ms => if (ms.lookup key).isNone then some (ms ++ [(key, value)]) else none
  | key :: path, value, ms =>
    match ms.lookup key with
    | none => (add? path value []).map fun inner => ms ++ [(key, .table .dotted inner)]
    | some (.table .dotted inner) => (add? path value inner).map fun inner => replace key (.table .dotted inner) ms
    | some _ => none

/-- The members with several values for keys with points. -/
def addAll? (pairs : List (List Text × Value)) (ms : Members) : Option Members :=
  pairs.foldlM (fun ms (path, value) => add? path value ms) ms

/-- The members with a table under a header. A header of single brackets is given once, even if the table is already
implied; one of double brackets adds a table to those that share it. On the way down the last of such tables counts. -/
def addSection? (isShared : Bool) (pairs : List (List Text × Value)) : (path : List Text) → Members → Option Members
  | [], _ => none
  | [key], ms =>
    match ms.lookup key, isShared with
    | none, false => (addAll? pairs []).map fun inner => ms ++ [(key, .table .header inner)]
    | none, true => (addAll? pairs []).map fun inner => ms ++ [(key, .tables [inner])]
    | some (.table .implied inner), false => (addAll? pairs inner).map fun inner => replace key (.table .header inner) ms
    | some (.tables items), true => (addAll? pairs []).map fun inner => replace key (.tables (items ++ [inner])) ms
    | _, _ => none
  | key :: path, ms =>
    match ms.lookup key with
    | none => (addSection? isShared pairs path []).map fun inner => ms ++ [(key, .table .implied inner)]
    | some (.table .implied inner) =>
      (addSection? isShared pairs path inner).map fun inner => replace key (.table .implied inner) ms
    | some (.table .header inner) =>
      (addSection? isShared pairs path inner).map fun inner => replace key (.table .header inner) ms
    | some (.tables items) =>
      (addSection? isShared pairs path (items.getLast?.getD [])).map fun inner =>
        replace key (.tables (items.dropLast ++ [inner])) ms
    | some _ => none

end Members

end Glossa.Toml
