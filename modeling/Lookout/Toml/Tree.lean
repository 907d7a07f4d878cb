import Lookout.Json

/-!
# TOML tables

The tables of a TOML document while it is read. How a table came about decides what may still be
added to it: a table that only the header of a table below it implied can be given its own header
once, a table made by dotted keys can be added to by dotted keys, and one with a header of its own
only below that header.
-/
set_option autoImplicit false

namespace Lookout.Toml

inductive Kind where
  | implied
  | dotted
  /-- By its own header, or as the whole document. -/
  | declared
deriving DecidableEq

inductive Node where
  | leaf (value : Json)
  | table (kind : Kind) (members : List (String × Node))
  /-- The tables of an array of tables; all of them have headers. -/
  | tables (elements : List (List (String × Node)))

abbrev Members := List (String × Node)

mutual

def Node.toJson : Node → Json
  | .leaf value => value
  | .table _ members => .object (membersJson members)
  | .tables elements => .arr (elementsJson elements)

def membersJson : List (String × Node) → List (String × Json)
  | [] => []
  | (key, node) :: rest => (key, node.toJson) :: membersJson rest

def elementsJson : List (List (String × Node)) → List Json
  | [] => []
  | members :: rest => .object (membersJson members) :: elementsJson rest

end

/-- Carries an action out on the table at the end of a path, making the tables on the way that are
not there. Of an array of tables the last one is meant. -/
def Members.alter (dotted : Bool) (action : Kind → Members → Option (Kind × Members)) :
    List String → Kind → Members → Option (Kind × Members)
  | [], kind, members => action kind members
  | key :: path, kind, members =>
    match members.lookup key with
    | none => do
      let made : Kind := if dotted then .dotted else .implied
      let (inner, below) ← alter dotted action path made []
      pure (kind, Entries.put key (.table inner below) members)
    | some (.table inner below) =>
      if dotted && inner = .declared then none
      else do
        let (inner, below) ← alter dotted action path inner below
        pure (kind, Entries.put key (.table inner below) members)
    | some (.tables elements) =>
      match elements.getLast? with
      | none => none
      | some last => do
        let (_, below) ← alter dotted action path .declared last
        pure (kind, Entries.put key (.tables (elements.dropLast ++ [below])) members)
    | some (.leaf _) => none

/-- Sets a dotted key. Its last table must be one that dotted keys make, except for the table that
the key stands in. -/
def Members.set (path : List String) (key : String) (value : Node) (kind : Kind)
    (members : Members) : Option (Kind × Members) :=
  Members.alter true
    (fun kind members =>
      if decide (kind = .dotted) == path.isEmpty then none
      else if (members.lookup key).isSome then none
      else some (kind, Entries.put key value members))
    path kind members

def Members.declare (key : String) (kind : Kind) (members : Members) : Option (Kind × Members) :=
  match members.lookup key with
  | none => some (kind, Entries.put key (.table .declared []) members)
  | some (.table .implied below) => some (kind, Entries.put key (.table .declared below) members)
  | some _ => none

def Members.append (key : String) (kind : Kind) (members : Members) : Option (Kind × Members) :=
  match members.lookup key with
  | none => some (kind, Entries.put key (.tables [[]]) members)
  | some (.tables elements) => some (kind, Entries.put key (.tables (elements ++ [[]])) members)
  | some _ => none

end Lookout.Toml
