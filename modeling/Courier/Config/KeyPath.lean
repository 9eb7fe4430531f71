import Courier.Config.Node

/-! Paths of keys into a configuration tree, and the merging of trees. A path is a name, then names
after dots and numbers in brackets. A value put into a tree replaces what is there, except that the
entries of a table are put one by one.
-/

namespace Courier.Config

open Courier.Text (isDigit)

/-- A step of a path: the entry of a name, or the item of a number, counted from the end when it is
negative. -/
inductive Step
  | name (name : String)
  | index (index : Int)
  deriving DecidableEq, Repr

abbrev KeyPath := List Step

namespace KeyPath

def isNameChar (c : Char) : Bool :=
  ('a' ≤ c && c ≤ 'z') || ('A' ≤ c && c ≤ 'Z') || isDigit c || c == '_' || c == '-'

def index? (cs : List Char) : Option Int :=
  let (negative, digits) := match cs with
    | '-' :: cs => (true, cs)
    | cs => (false, cs)
  if digits.isEmpty || !digits.all isDigit then none
  else
    let n : Nat := digits.foldl (fun n c => 10 * n + (c.toNat - 48)) 0
    some (if negative then -(n : Int) else n)

/-- The text without blanks at both ends. -/
def trimSpaces (cs : List Char) : List Char :=
  ((cs.dropWhile (· == ' ')).reverse.dropWhile (· == ' ')).reverse

/-- The steps after a name; `fuel` bounds their number. -/
def steps? : Nat → List Char → Option KeyPath
  | _, [] => some []
  | 0, _ => none
  | fuel + 1, '.' :: cs =>
    match cs.span isNameChar with
    | ([], _) => none
    | (name, rest) => (steps? fuel rest).map (.name (String.ofList name) :: ·)
  | fuel + 1, '[' :: cs =>
    match cs.span (· != ']') with
    | (inside, _ :: rest) =>
      match index? (trimSpaces inside), steps? fuel rest with
      | some i, some steps => some (.index i :: steps)
      | _, _ => none
    | _ => none
  | _, _ => none

/-- The path that a text spells. -/
def parse? (text : String) : Option KeyPath :=
  match text.toList.span isNameChar with
  | ([], _) => none
  | (name, rest) => (steps? rest.length rest).map (.name (String.ofList name) :: ·)

/-- The path of a key: the one it spells, or the key itself as a name. -/
def ofKey (key : String) : KeyPath :=
  (parse? key).getD [.name key]

end KeyPath

namespace Node

/-- The entries of a table; any other value has none. -/
def entries : Node → List (String × Node)
  | .table entries => entries
  | _ => []

/-- The items of an array; any other value has none. -/
def items : Node → List Node
  | .array items => items
  | _ => []

/-- The entries with another value for a name, at its place or at the end. -/
def setEntry (name : String) (node : Node) : List (String × Node) → List (String × Node)
  | [] => [(name, node)]
  | (n, old) :: rest =>
    if n == name then (name, node) :: rest else (n, old) :: setEntry name node rest

/-- The items with room for a number, and the place of that number among them. -/
def makeRoom (items : List Node) (index : Int) : List Node × Nat :=
  match index with
  | .ofNat i => (items ++ List.replicate (i + 1 - items.length) .nil, i)
  | .negSucc i =>
    if i + 1 ≤ items.length then (items, items.length - (i + 1))
    else (List.replicate (i + 1 - items.length) .nil ++ items, 0)

/-- Changes the value at the end of a path, making tables and arrays on the way. -/
def update (change : Node → Node) : KeyPath → Node → Node
  | [], node => change node
  | .name name :: path, node =>
    let old := (find? name node.entries).getD .nil
    .table (setEntry name (update change path old) node.entries)
  | .index i :: path, node =>
    let (items, place) := makeRoom node.items i
    .array (items.modify place (update change path))

mutual

def overlay : Node → Node → Node
  | .table entries, target => .table (overlayEntries entries target.entries)
  | node, _ => node

/-- Puts entries over others, one by one. -/
def overlayEntries : List (String × Node) → List (String × Node) → List (String × Node)
  | [], target => target
  | (name, node) :: rest, target =>
    overlayEntries rest (setEntry name (overlay node ((find? name target).getD .nil)) target)

end

/-- Puts the keys of a source over a tree; each key is a path. -/
def mergeSource (source : List (String × Node)) (tree : Node) : Node :=
  source.foldl (fun tree (key, node) => update (overlay node) (KeyPath.ofKey key) tree) tree

end Node

end Courier.Config
