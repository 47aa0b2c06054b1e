import Highlighter.Text

/-!
# TOML values

* `Value`: what a TOML document holds. Of floats and times only the literal is kept.
* `Table`: values under keys, in ascending order of the keys by code point.
* `Table.get?`, `Table.insert`: the value under a key.
* `Decoder`: a way to decode documents into tables.
-/

namespace Highlighter.Toml

/-- A TOML value. The entries of a table ascend by key. -/
inductive Value where
  | string (text : Text)
  | integer (n : Int)
  | float (literal : Text)
  | boolean (value : Bool)
  | time (literal : Text)
  | array (items : List Value)
  | table (entries : List (Text × Value))

/-- Values under keys, in ascending order of the keys. -/
abbrev Table := List (Text × Value)

namespace Value

/-- The text of a string. -/
def string? : Value → Option Text
  | string text => some text
  | _ => none

/-- The truth value of a boolean. -/
def boolean? : Value → Option Bool
  | boolean value => some value
  | _ => none

/-- The entries of a table. -/
def table? : Value → Option Table
  | table entries => some entries
  | _ => none

end Value

namespace Table

/-- The value under a key. -/
def get? (table : Table) (key : Text) : Option Value := List.lookup key table

/-- The table with a value put under a key, where it replaces what was there. -/
def insert (table : Table) (key : Text) (value : Value) : Table :=
  match table with
  | [] => [(key, value)]
  | (other, current) :: rest =>
    if key = other then (key, value) :: rest
    else if key < other then (key, value) :: (other, current) :: rest
    else (other, current) :: insert rest key value

end Table

/-- A way to decode documents: the table that a text stands for, or the reason why it stands for
none. -/
abbrev Decoder := Text → Except Text Table

end Highlighter.Toml
