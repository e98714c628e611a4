import StatementCheck.Binary64

/-!
# TOML values

A TOML document is a table, and a table is a list of entries in the order in which they were made.
How a table came about decides what may still be added to it.

## Main definitions

* `Toml.Value` : a value.
* `Toml.Table` : a table with its origin.
* `Toml.Table.edit` : change the table at the end of a path.
* `Toml.Table.enter` : add an entry under a dotted key.
-/
namespace StatementCheck.Toml

/-- How a table came about. -/
inductive Origin
  /-- Written between braces. Nothing can be added later. -/
  | inline
  /-- By a header of its own. -/
  | headed
  /-- On the way to a table with a longer header. -/
  | implied
  /-- On the way to an entry with a dotted key. -/
  | dotted
  deriving DecidableEq

/-- May dotted keys lead through a table of this origin? -/
def Origin.isOpen : Origin → Bool
  | implied => true
  | dotted => true
  | _ => false

/-- A value. Dates and times are told apart from other values and not kept. -/
inductive Value
  | string (s : String)
  | integer (n : Int)
  | float (x : Binary64)
  | boolean (b : Bool)
  | moment
  | array (elements : List Value)
  | table (origin : Origin) (entries : List (String × Value))
  /-- The tables under headers in double brackets. -/
  | tables (elements : List Value)

/-- Entries in the order in which they were made. -/
abbrev Entries := List (String × Value)

/-- A table with its origin. -/
structure Table where
  origin : Origin
  entries : Entries

namespace Table

/-- The table as a value. -/
def toValue (t : Table) : Value := .table t.origin t.entries

/-- The table with a value for a key. A key that is there keeps its place, a new one comes last. -/
def set (t : Table) (key : String) (v : Value) : Table :=
  if (t.entries.lookup key).isSome then
    { t with entries := t.entries.map fun e => if e.1 = key then (key, v) else e }
  else { t with entries := t.entries ++ [(key, v)] }

/-- The table without a key. -/
def erase (t : Table) (key : String) : Table :=
  { t with entries := t.entries.filter fun e => e.1 ≠ key }

/-- The table with one more entry, unless it has one with that key. -/
def add? (t : Table) (key : String) (v : Value) : Option Table :=
  if (t.entries.lookup key).isSome then none else some (t.set key v)

/-- Change the table at the end of a path. Tables that are missing on the way get the origin
`origin`. The way leads through tables in double brackets by the last one. A dotted key may lead
only through tables that are open to it, and nothing leads through an inline table. -/
def edit (origin : Origin) (f : Table → Option Table) : List String → Table → Option Table
  | [], t => f t
  | key :: path, t =>
    match t.entries.lookup key with
    | none => do
      let new ← edit origin f path ⟨origin, []⟩
      return t.set key new.toValue
    | some (.table .inline _) => none
    | some (.table own entries) =>
      if origin = .dotted && !own.isOpen then none
      else do
        let new ← edit origin f path ⟨own, entries⟩
        return t.set key new.toValue
    | some (.tables elements) =>
      match elements.getLast? with
      | some (.table own entries) => do
        let new ← edit origin f path ⟨own, entries⟩
        return t.set key (.tables (elements.dropLast ++ [new.toValue]))
      | _ => none
    | some _ => none

/-- Add an entry under a dotted key, given as the path to its table and the last part. A path must
end in a table that dotted keys have made. -/
def enter (path : List String) (key : String) (v : Value) (t : Table) : Option Table :=
  t.edit .dotted (fun t =>
    if path.isEmpty || t.origin = .dotted then t.add? key v else none) path

end Table

end StatementCheck.Toml
