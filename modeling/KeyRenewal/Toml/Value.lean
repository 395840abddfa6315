/-!
# TOML values

A table remembers how it came to be, because that decides what may still be added to it: written in
braces it is closed, under a header of its own it may get sub-tables, and one that only a longer
header or a dotted key implies may still be completed.
-/

namespace KeyRenewal.Toml

/-- How a table came to be. -/
inductive Origin
  | braces
  | header
  | longerHeader
  | dottedKey
deriving DecidableEq

inductive Value
  | string (text : String)
  | integer (value : Int)
  | boolean (value : Bool)
  | float
  | date
  | array (items : List Value)
  | table (origin : Origin) (entries : List (String × Value))
  /-- Tables under one header in double brackets, the latest last. -/
  | tables (items : List (List (String × Value)))
deriving Inhabited

/-- The keys of a table with their values, in the order they appeared. -/
abbrev Entries := List (String × Value)

/-- Put a value in the place of the one under a key. -/
def replace (entries : Entries) (key : String) (value : Value) : Entries :=
  entries.map fun e => if e.1 = key then (key, value) else e

/-- Change the table that a path of keys leads to, making those on the way that are not there. The
change is told whether a dotted key made the table. A dotted path may not enter a table that has a
header, and no path enters a table in braces or anything else. -/
def alter (dotted : Bool) (change : Bool → Entries → Option Entries) :
    List String → Bool → Entries → Option Entries
  | [], byDottedKey, entries => change byDottedKey entries
  | key :: path, _, entries =>
    match entries.lookup key with
    | none => do
      let inner ← alter dotted change path dotted []
      return entries ++ [(key, .table (if dotted then .dottedKey else .longerHeader) inner)]
    | some (.table origin inner) =>
      if origin = .braces ∨ (dotted ∧ origin = .header) then none
      else do
        let inner ← alter dotted change path (origin == .dottedKey) inner
        return replace entries key (.table origin inner)
    | some (.tables items) =>
      match items.getLast? with
      | none => none
      | some latest => do
        let latest ← alter dotted change path false latest
        return replace entries key (.tables (items.dropLast ++ [latest]))
    | some _ => none

/-- Add a value under a dotted key: all but its last part must lead to tables that only dotted keys
have made, and its last part must be new. -/
def addValue (path : List String) (key : String) (value : Value) (entries : Entries) :
    Option Entries :=
  alter true (fun byDottedKey entries =>
    if byDottedKey = path.isEmpty then none
    else if (entries.lookup key).isSome then none
    else some (entries ++ [(key, value)])) path false entries

/-- Open a table under a header; it must be new or only implied by longer headers. -/
def openTable (path : List String) (key : String) (entries : Entries) : Option Entries :=
  alter false (fun _ entries =>
    match entries.lookup key with
    | none => some (entries ++ [(key, .table .header [])])
    | some (.table .longerHeader inner) => some (replace entries key (.table .header inner))
    | some _ => none) path false entries

/-- Open a further table under a header in double brackets. -/
def openFurther (path : List String) (key : String) (entries : Entries) : Option Entries :=
  alter false (fun _ entries =>
    match entries.lookup key with
    | none => some (entries ++ [(key, .tables [[]])])
    | some (.tables items) => some (replace entries key (.tables (items ++ [[]])))
    | some _ => none) path false entries

/-- Add a value to the table under a header. -/
def addUnder (header : List String) (path : List String) (key : String) (value : Value)
    (entries : Entries) : Option Entries :=
  alter false (fun _ entries => addValue path key value entries) header false entries

end KeyRenewal.Toml
