import Fieldwise.Toml.Scalar

/-! # TOML tables

The tables of a document while it is read, and what may still be done to them: a table is declared
at most once, one that keys with points have opened is not opened again later, and inline tables
and arrays never change. -/

namespace Fieldwise.Toml

abbrev Entries := List (Datum × Datum)

/-- Changes the table under a key. Missing tables are made on the way; an array of tables stands for
its last one, if `intoLists` says so. There is no result where a value is in the way. -/
def changeTable (intoLists : Bool) (change : Entries → Option Entries) :
    Key → Entries → Option Entries
  | [], table => change table
  | name :: rest, table => do
    let inner ← match Datum.lookup? name table with
      | none => Datum.mapping <$> changeTable intoLists change rest []
      | some (.mapping inner) => Datum.mapping <$> changeTable intoLists change rest inner
      | some (.list items) =>
        match intoLists, items.getLast? with
        | true, some (.mapping inner) => do
          let inner ← changeTable intoLists change rest inner
          pure (Datum.list (items.dropLast ++ [.mapping inner]))
        | _, _ => none
      | some _ => none
    return Datum.put (.text name) inner table

/-- Adds an entry to the table that the other names of its key lead to. -/
def addEntry (intoLists : Bool) (path : Key) (name : String) (value : Datum) :
    Entries → Option Entries :=
  changeTable intoLists (fun table =>
    if (Datum.lookup? name table).isSome then none else some (table ++ [(.text name, value)])) path

/-- Appends an empty table to the array under a name; the array is made if it is missing. -/
def appendTable (name : String) (table : Entries) : Option Entries :=
  match Datum.lookup? name table with
  | none => some (table ++ [(.text name, .list [.mapping []])])
  | some (.list items) => some (Datum.put (.text name) (.list (items ++ [.mapping []])) table)
  | some _ => none

/-- Whether a value can never change. -/
def isFixed : Datum → Bool
  | .mapping _ => true
  | .list _ => true
  | _ => false

/-- A document under construction: its tables, the keys that are declared, those under which nothing
changes, those that the current table will have declared at its end, and the key of that table. -/
structure Draft where
  root : Entries := []
  declared : List Key := []
  fixed : List Key := []
  pending : List Key := []
  header : Key := []

namespace Draft

/-- Whether a key, or one on the way to it, is fixed. -/
def isFixedAt (draft : Draft) (key : Key) : Bool :=
  draft.fixed.any (·.isPrefixOf key)

def endTable (draft : Draft) : Draft :=
  { draft with declared := draft.pending ++ draft.declared, pending := [] }

def declareTable (key : Key) (draft : Draft) : Option Draft := do
  let draft := draft.endTable
  if key ∈ draft.declared ∨ draft.isFixedAt key then none
  else
    let root ← changeTable true some key draft.root
    return { draft with root, declared := key :: draft.declared, header := key }

/-- Declares one more table of an array of tables and goes on with it. What is known of the tables
before it is forgotten. -/
def declareItem (key : Key) (draft : Draft) : Option Draft := do
  let draft := draft.endTable
  if draft.isFixedAt key then none
  else
    let name ← key.getLast?
    let root ← changeTable true (appendTable name) key.dropLast draft.root
    let outside := fun (other : Key) => !key.isPrefixOf other
    return { draft with
      root, declared := key :: draft.declared.filter outside, fixed := draft.fixed.filter outside
      header := key }

/-- The keys between the current table and the table that a key leads to. -/
def openedBy (draft : Draft) (key : Key) : List Key :=
  (List.range (key.length - 1)).map fun count => draft.header ++ key.take (count + 1)

/-- Sets a key in the current table. -/
def set (key : Key) (value : Datum) (draft : Draft) : Option Draft := do
  let opened := draft.openedBy key
  let path := draft.header ++ key.dropLast
  if opened.any (draft.declared.contains ·) ∨ draft.isFixedAt path then none
  else
    let root ← addEntry true path (← key.getLast?) value draft.root
    return { draft with
      root, pending := opened ++ draft.pending
      fixed := if isFixed value then (draft.header ++ key) :: draft.fixed else draft.fixed }

end Draft

end Fieldwise.Toml
