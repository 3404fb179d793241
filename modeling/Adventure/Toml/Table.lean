import Adventure.Toml.Basic

namespace Adventure.Toml

/-- How a table of a document came to be: by its own header, by the header of a table in it, or by a dotted
key. -/
inductive Origin where
  | stated
  | implied
  | dotted
deriving DecidableEq

/-- What stands under a key while a document is read. Of an array of tables the last one is open. -/
inductive Node where
  | leaf (value : Toml)
  | table (origin : Origin) (children : List (String × Node))
  | tables (done : List Toml) (last : List (String × Node))

namespace Node

mutual

def value : Node → Toml
  | .leaf value => value
  | .table _ children => .table (values children)
  | .tables done last => .list (done ++ [.table (values last)])

def values : List (String × Node) → List (String × Toml)
  | [] => []
  | (key, node) :: rest => (key, value node) :: values rest

end

end Node

/-- The entries of a table in the order in which they came. -/
abbrev Entries := List (String × Node)

namespace Entries

/-- Put a node under a key, in the place of the one that is there. -/
def put (entries : Entries) (key : String) (node : Node) : Entries :=
  if (entries.map Prod.fst).contains key then
    entries.map fun entry => if entry.1 = key then (key, node) else entry
  else entries ++ [(key, node)]

/-- Work on the table under a key, which is made if there is none. A value is not a table. -/
def descend (entries : Entries) (key : String) (work : Entries → Option Entries) : Option Entries :=
  match entries.lookup key with
  | none => (work []).map fun children => entries.put key (.table .implied children)
  | some (.table origin children) => (work children).map fun children => entries.put key (.table origin children)
  | some (.tables done last) => (work last).map fun last => entries.put key (.tables done last)
  | some (.leaf _) => none

/-- State a table. It may have been implied, and not stated before. -/
def openTable : (path : List String) → Entries → Option Entries
  | [], _ => none
  | [key], entries =>
    match entries.lookup key with
    | none => some (entries.put key (.table .stated []))
    | some (.table .implied children) => some (entries.put key (.table .stated children))
    | _ => none
  | key :: rest, entries => entries.descend key (openTable rest)

/-- Add a table to an array of tables. -/
def openNext : (path : List String) → Entries → Option Entries
  | [], _ => none
  | [key], entries =>
    match entries.lookup key with
    | none => some (entries.put key (.tables [] []))
    | some (.tables done last) => some (entries.put key (.tables (done ++ [.table (Node.values last)]) []))
    | _ => none
  | key :: rest, entries => entries.descend key (openNext rest)

/-- Set a dotted key, from the second table on. A stated table is not extended by dotted keys, and only a
table made by them takes the value. -/
def assignDotted (value : Toml) : (path : List String) → (inside : Origin) → Entries → Option Entries
  | [], _, _ => none
  | [key], inside, entries =>
    if inside ≠ .dotted ∨ (entries.map Prod.fst).contains key then none else some (entries ++ [(key, .leaf value)])
  | key :: rest, _, entries =>
    match entries.lookup key with
    | none => (assignDotted value rest .dotted []).map fun children => entries.put key (.table .dotted children)
    | some (.table .stated _) => none
    | some (.table origin children) =>
      (assignDotted value rest origin children).map fun children => entries.put key (.table origin children)
    | some (.tables done last) =>
      (assignDotted value rest .stated last).map fun last => entries.put key (.tables done last)
    | some (.leaf _) => none

/-- Set a key that no value has yet. -/
def assign (value : Toml) (path : List String) (entries : Entries) : Option Entries :=
  match path with
  | [key] =>
    if (entries.map Prod.fst).contains key then none else some (entries ++ [(key, .leaf value)])
  | path => assignDotted value path .stated entries

/-- Set a key in the table that a header opened. -/
def assignUnder (value : Toml) (path : List String) : (header : List String) → Entries → Option Entries
  | [], entries => entries.assign value path
  | key :: rest, entries => entries.descend key (assignUnder value path rest)

end Entries

end Adventure.Toml
