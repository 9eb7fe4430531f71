import Courier.Config.Node

/-! The tree of a TOML document while it is read. Each table remembers how it came about, since that
decides what may still be put into it: a table that a header names is named once, and a table that a
dotted key made is not named by a header.
-/

namespace Courier.Toml

open Courier.Config (Node)

/-- How a table came about: from its own header, as a parent in a header, or from a dotted key. -/
inductive Origin
  | header
  | parent
  | dotted
  deriving DecidableEq, Repr

/-- A part of the tree: a value that is complete, a table, or a list of tables, the latest first. -/
inductive Item
  | value (node : Node)
  | table (origin : Origin) (entries : List (String × Item))
  | tables (latest : List (String × Item)) (earlier : List (List (String × Item)))

abbrev Entries := List (String × Item)

namespace Entries

def find? (key : String) (entries : Entries) : Option Item :=
  (List.find? (·.1 == key) entries).map (·.2)

/-- The entries with another item for a key, at its place or at the end. -/
def set (key : String) (item : Item) : Entries → Entries
  | [] => [(key, item)]
  | (k, i) :: rest => if k == key then (key, item) :: rest else (k, i) :: set key item rest

/-- Puts a value under a dotted key. The key must be new, and what it goes through must not have a
header of its own. -/
def insert (node : Node) : List String → Entries → Option Entries
  | [], _ => none
  | [key], entries =>
    match find? key entries with
    | none => some (set key (.value node) entries)
    | some _ => none
  | key :: path, entries =>
    match find? key entries with
    | none => (insert node path []).map fun sub => set key (.table .dotted sub) entries
    | some (.table .header _) => none
    | some (.table origin sub) =>
      (insert node path sub).map fun sub => set key (.table origin sub) entries
    | some _ => none

/-- Changes the table of a header's path, making the tables on the way. A list of tables stands for
its latest. -/
def modify (change : Entries → Option Entries) : List String → Entries → Option Entries
  | [], entries => change entries
  | key :: path, entries =>
    match find? key entries with
    | none => (modify change path []).map fun sub => set key (.table .parent sub) entries
    | some (.table origin sub) =>
      (modify change path sub).map fun sub => set key (.table origin sub) entries
    | some (.tables latest earlier) =>
      (modify change path latest).map fun latest => set key (.tables latest earlier) entries
    | some (.value _) => none

def define (key : String) (entries : Entries) : Option Entries :=
  match find? key entries with
  | none => some (set key (.table .header []) entries)
  | some (.table .parent sub) => some (set key (.table .header sub) entries)
  | some _ => none

def extend (key : String) (entries : Entries) : Option Entries :=
  match find? key entries with
  | none => some (set key (.tables [] []) entries)
  | some (.tables latest earlier) => some (set key (.tables [] (latest :: earlier)) entries)
  | some _ => none

end Entries

mutual

/-- An item as a value of a configuration tree. -/
def Item.toNode : Item → Node
  | .value node => node
  | .table _ entries => .table (entriesToNodes entries)
  | .tables latest earlier => .array (listsToNodes earlier [.table (entriesToNodes latest)])

/-- Entries as the entries of a configuration tree. -/
def entriesToNodes : List (String × Item) → List (String × Node)
  | [] => []
  | (key, item) :: rest => (key, item.toNode) :: entriesToNodes rest

/-- Tables, the latest first, as values in their order before others. -/
def listsToNodes : List (List (String × Item)) → List Node → List Node
  | [], nodes => nodes
  | entries :: rest, nodes => listsToNodes rest (.table (entriesToNodes entries) :: nodes)

end

end Courier.Toml
