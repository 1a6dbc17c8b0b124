/-!
# TOML values

Strings, booleans, arrays and tables are the values that configuration is made of; of a number or a
date it only matters that it stands there. A table remembers how it came about, because that decides
which later statements may add to it.
-/

namespace Searchlight

namespace Toml

/-- How a table came about. -/
inductive Origin where
  /-- By a header of its own. -/
  | header
  /-- As a part of the path of another table's header. -/
  | path
  /-- As a part of a dotted key. -/
  | dotted
  | inline
  deriving DecidableEq

end Toml

inductive Toml where
  | string (s : String)
  | boolean (b : Bool)
  /-- A number, a date or a time. -/
  | scalar
  | array (items : List Toml)
  /-- Tables that were added one by one, each under a header in double brackets. -/
  | tables (items : List Toml)
  | table (origin : Toml.Origin) (entries : List (String × Toml))

namespace Toml

def string? : Toml → Option String
  | string s => some s
  | _ => none

def boolean? : Toml → Option Bool
  | boolean b => some b
  | _ => none

/-- The items of an array, however it was written. -/
def items? : Toml → Option (List Toml)
  | array items | tables items => some items
  | _ => none

def entries? : Toml → Option (List (String × Toml))
  | table _ entries => some entries
  | _ => none

/-- Entries with the value of one key replaced, or added behind them. -/
def setEntry (key : String) (v : Toml) : List (String × Toml) → List (String × Toml)
  | [] => [(key, v)]
  | (k, w) :: rest => if k = key then (k, v) :: rest else (k, w) :: setEntry key v rest

/-- Adds a value under a dotted key to a table. A dotted key opens tables of its own, extends those
that dotted keys opened, and leaves all others alone. -/
def assign (origin : Origin) (entries : List (String × Toml)) (dotted : Bool) :
    List String → Toml → Option (List (String × Toml))
  | [], _ => none
  | [key], v =>
    if dotted ≠ (origin == .dotted) && (dotted || origin == .path || origin == .dotted) then none
    else if (entries.lookup key).isSome then none
    else some (entries ++ [(key, v)])
  | key :: rest, v =>
    match entries.lookup key with
    | none =>
      (assign .dotted [] true rest v).map fun inner => entries ++ [(key, table .dotted inner)]
    | some (table o inner) =>
      if o = .dotted ∨ o = .path then
        (assign o inner true rest v).map fun inner => setEntry key (table o inner) entries
      else none
    | some _ => none

/-- Opens a table under its header. A table that is only known as a part of paths becomes a table of
its own; any other must be new. -/
def openTable (key : String) (entries : List (String × Toml)) : Option (List (String × Toml)) :=
  match entries.lookup key with
  | none => some (entries ++ [(key, table .header [])])
  | some (table .path inner) => some (setEntry key (table .header inner) entries)
  | some _ => none

/-- Adds an empty table under a header in double brackets. -/
def openTables (key : String) (entries : List (String × Toml)) : Option (List (String × Toml)) :=
  match entries.lookup key with
  | none => some (entries ++ [(key, tables [table .header []])])
  | some (tables items) => some (setEntry key (tables (items ++ [table .header []])) entries)
  | some _ => none

/-- Changes the table that a header's path leads to. Tables on the way that are not there yet come
about; of tables in double brackets the last one is meant. -/
def within (f : Origin → List (String × Toml) → Option (List (String × Toml)))
    (origin : Origin) (entries : List (String × Toml)) :
    List String → Option (List (String × Toml))
  | [] => f origin entries
  | key :: rest =>
    match entries.lookup key with
    | none =>
      (within f .path [] rest).map fun inner => entries ++ [(key, table .path inner)]
    | some (table .inline _) => none
    | some (table o inner) =>
      (within f o inner rest).map fun inner => setEntry key (table o inner) entries
    | some (tables items) =>
      match items.getLast? with
      | some (table o inner) =>
        (within f o inner rest).map fun inner =>
          setEntry key (tables (items.dropLast ++ [table o inner])) entries
      | _ => none
    | some _ => none

/-- A line of a document. -/
inductive Statement where
  | header (path : List String)
  | tablesHeader (path : List String)
  | assignment (key : List String) (value : Toml)

/-- A document while its statements are carried out: the table they add to, and the whole. -/
structure Document where
  current : List String := []
  root : List (String × Toml) := []

def Document.step (d : Document) : Statement → Option Document
  | .header path => do
    let key ← path.getLast?
    let root ← within (fun _ es => openTable key es) .header d.root path.dropLast
    some ⟨path, root⟩
  | .tablesHeader path => do
    let key ← path.getLast?
    let root ← within (fun _ es => openTables key es) .header d.root path.dropLast
    some ⟨path, root⟩
  | .assignment key value => do
    let dotted := 1 < key.length
    let root ← within (fun o es => assign o es dotted key value) .header d.root d.current
    some { d with root := root }

end Toml

end Searchlight
