import ClusterSurvey.Toml.Scalar

/-!
# Tables

A table is opened by a header, comes to be above one that is, is spelled out by dotted keys, or
stands inline.  How it came to be decides what may still be added to it: nothing to an inline one, by
dotted keys only to one that no header opened, and a header opens only what no header or dotted key
has opened before.
-/

namespace ClusterSurvey.Toml

/-- How a table came to be. -/
inductive Origin where
  /-- It has a header, or is the table of the whole text. -/
  | header
  /-- It lies above a table that has a header. -/
  | implied
  /-- Dotted keys spell it out. -/
  | dotted
  | inline
  deriving DecidableEq, Repr

/-- A value. -/
inductive Value where
  | scalar (s : Scalar)
  | array (items : List Value)
  /-- An array whose items have headers of their own. -/
  | tables (items : List Value)
  | table (origin : Origin) (members : List (String × Value))

/-- The members of a table in the order in which they came. -/
abbrev Members := List (String × Value)

/-- A path of names to a member. -/
abbrev Path := List String

namespace Members

/-- Changes the member of a name, or adds it, as `f` says. -/
def alter (name : String) (f : Option Value → Option Value) : Members → Option Members
  | [] => (f none).map fun v => [(name, v)]
  | (k, v) :: rest =>
    if k = name then (f (some v)).map fun w => (k, w) :: rest
    else (alter name f rest).map ((k, v) :: ·)

/-- Changes the table at the end of a path.  Tables that are missing on the way are made; of an array
of tables the last one is meant.  Dotted paths do not lead through a table that a header opened. -/
def within (dotted : Bool) (f : Origin → Members → Option Members) :
    Path → Origin → Members → Option Members
  | [], origin, ms => f origin ms
  | name :: path, _, ms => ms.alter name fun
    | none =>
      let made := if dotted then Origin.dotted else .implied
      (within dotted f path made []).map (.table made)
    | some (.table origin inner) =>
      if origin = .inline ∨ (dotted ∧ origin = .header) then none
      else (within dotted f path origin inner).map (.table origin)
    | some (.tables items) =>
      match items.getLast? with
      | some (.table origin inner) =>
        (within dotted f path origin inner).map fun ms =>
          .tables (items.dropLast ++ [.table origin ms])
      | _ => none
    | some (.array _) | some (.scalar _) => none

/-- Adds a member that is not there yet. -/
def add (name : String) (v : Value) (ms : Members) : Option Members :=
  ms.alter name fun
    | none => some v
    | some _ => none

/-- Gives a value to the member at the end of a path, whose last table is one that dotted keys spell
out unless the path has no dots. -/
def assign (path : Path) (name : String) (v : Value) (ms : Members) : Option Members :=
  within true (fun origin ms =>
    if path ≠ [] ∧ origin ≠ .dotted then none else ms.add name v) path .header ms

/-- Opens a table with a header. -/
def openTable (path : Path) (name : String) (ms : Members) : Option Members :=
  within false (fun _ ms => ms.alter name fun
    | none => some (.table .header [])
    | some (.table .implied inner) => some (.table .header inner)
    | some _ => none) path .header ms

/-- Opens a further table of an array of tables. -/
def openItem (path : Path) (name : String) (ms : Members) : Option Members :=
  within false (fun _ ms => ms.alter name fun
    | none => some (.tables [.table .header []])
    | some (.tables items) => some (.tables (items ++ [.table .header []]))
    | some _ => none) path .header ms

end Members

end ClusterSurvey.Toml
