import Highlighter.Toml.Time
import Highlighter.Toml.Value

/-!
# Building tables

The lines of a document put values at places in a tree of tables. How a table came about decides
whether a later line may add to it or name it again. The tree keeps the order in which the keys
of a table were first named; only the finished value has them in ascending order.

* `Node`, `Origin`: the tree, and how a table in it came about.
* `within`: a change made to the table at the end of a path.
* `assign`, `openTable`, `openElement`: what a line does to the tree.
* `Entries.table?`, `Node.value?`: what a finished tree stands for. A table inside another that
  begins with `timeKey` stands for a time.
-/

namespace Highlighter.Toml

/-- How a table came about. -/
inductive Origin where
  /-- It has a header of its own, or is the whole document or an element of an array of tables. -/
  | header
  /-- It was named on the way to another header. -/
  | implied
  /-- It was named in front of a dot, on the way to a key. -/
  | dotted
  /-- It is written between braces, and nothing can be added to it later. -/
  | inlined
deriving DecidableEq, Repr

/-- A place in a document under construction: a value that holds no others, a list of values
between brackets, a table, or an array of tables that each have a header. -/
inductive Node where
  | leaf (value : Value)
  | array (items : List Node)
  | table (origin : Origin) (entries : List (Text × Node))
  | tables (elements : List (List (Text × Node)))

/-- The places of a table under construction, in the order in which they were first named. -/
abbrev Entries := List (Text × Node)

namespace Entries

/-- The place under a key. -/
def get? (entries : Entries) (key : Text) : Option Node := List.lookup key entries

/-- The entries with a place put under a key, where it replaces what was there. -/
def insert (entries : Entries) (key : Text) (node : Node) : Entries :=
  match entries with
  | [] => [(key, node)]
  | (other, current) :: rest =>
    if key = other then (key, node) :: rest else (other, current) :: insert rest key node

/-- The entries without the place under a key. -/
def erase (entries : Entries) (key : Text) : Entries := entries.filter (·.1 ≠ key)

end Entries

/-! ## Lines -/

/-- Changes the table at the end of a path, making the tables on the way that do not exist. The
path goes through the last element of an array of tables, but never through a finished value.
A path in front of a key (`dotted`) also never goes through a table with a header of its own. -/
def within (dotted : Bool) (change : Origin → Entries → Option Entries) :
    List Text → Origin → Entries → Option Entries
  | [], origin, entries => change origin entries
  | key :: path, _, entries =>
    match entries.get? key with
    | none => do
      let origin := if dotted then Origin.dotted else Origin.implied
      let inner ← within dotted change path origin []
      return entries.insert key (.table origin inner)
    | some (.table origin inner) => do
      guard (origin ≠ .inlined && (!dotted || origin ≠ .header))
      let inner ← within dotted change path origin inner
      return entries.insert key (.table origin inner)
    | some (.tables elements) => do
      let inner ← within dotted change path .header (← elements.getLast?)
      return entries.insert key (.tables (elements.dropLast ++ [inner]))
    | some (.leaf _) | some (.array _) => none

/-- Puts a value under a key, in the table that the path in front of the key leads to. The key
must be new, and a table that the path leads to must have been made by such paths only. -/
def assign (path : List Text) (key : Text) (value : Node) : Origin → Entries → Option Entries :=
  within true
    (fun origin entries => do
      guard ((origin = .dotted) ≠ path.isEmpty)
      guard (entries.get? key).isNone
      return entries.insert key value)
    path

/-- Opens the table that a header names. It must be new or have been implied so far; in either
case it becomes the last one of its table. -/
def openTable (path : List Text) (key : Text) : Entries → Option Entries :=
  within false
    (fun _ entries =>
      match entries.get? key with
      | none => some (entries.insert key (.table .header []))
      | some (.table .implied inner) =>
        some ((entries.erase key).insert key (.table .header inner))
      | some _ => none)
    path .header

/-- Adds an element to the array of tables that a header names, which may be new. -/
def openElement (path : List Text) (key : Text) : Entries → Option Entries :=
  within false
    (fun _ entries =>
      match entries.get? key with
      | none => some (entries.insert key (.tables [[]]))
      | some (.tables elements) => some (entries.insert key (.tables (elements ++ [[]])))
      | some _ => none)
    path .header

/-! ## Values -/

/-- The key with which a table begins that stands for the time written under it. -/
def timeKey : Text := "$__toml_private_datetime".toList

namespace Entries

/-- Whether a table stands for a time. -/
def isTime (entries : Entries) : Bool := entries.head?.any (·.1 = timeKey)

/-- The time at the start of a table, which must be the text of one. What follows is ignored. -/
def time? : Entries → Option Value
  | (_, .leaf (.string text)) :: _ => if isTimeLiteral text then some (.time text) else none
  | _ => none

/-- The value of a table inside another, given the values of its entries. -/
def close (entries : Entries) (table : Option Table) : Option Value :=
  if entries.isTime then entries.time? else table.map .table

end Entries

mutual

/-- The value that a place stands for. -/
def Node.value? : Node → Option Value
  | .leaf value => some value
  | .array items => (Node.values? items).map .array
  | .table _ entries => Entries.close entries (Entries.table? entries)
  | .tables elements => (Entries.values? elements).map .array

/-- The values that the items of an array stand for. -/
def Node.values? : List Node → Option (List Value)
  | [] => some []
  | node :: rest => do return (← node.value?) :: (← Node.values? rest)

/-- The values that the places of a table stand for. -/
def Entries.table? : List (Text × Node) → Option Table
  | [] => some []
  | (key, node) :: rest => do
    let value ← node.value?
    return (← Entries.table? rest).insert key value

/-- The values that the elements of an array of tables stand for. -/
def Entries.values? : List (List (Text × Node)) → Option (List Value)
  | [] => some []
  | entries :: rest => do
    return (← Entries.close entries (Entries.table? entries)) :: (← Entries.values? rest)

end

end Highlighter.Toml
