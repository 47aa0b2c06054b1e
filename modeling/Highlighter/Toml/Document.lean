import Highlighter.Toml.Number
import Highlighter.Toml.String
import Highlighter.Toml.Tree

/-!
# TOML documents

* `value`: a value, with arrays and inline tables nested up to a bound.
* `Line`, `line`: what one line of a document says.
* `parse?`, `decode`: the table that a document stands for.
-/

namespace Highlighter.Toml

open Reader

/-! ## Keys -/

/-- The characters of a key without quotes. -/
def isBareKeyChar (c : Char) : Bool := c.isAlphanum || c = '-' || c = '_'

/-- One part of a key, with the blanks around it. -/
def keyPart : Reader Text := do
  blanks
  let part ← takeWhile1 isBareKeyChar <|> basicString <|> literalString
  blanks
  return part

/-- The greatest number of parts of a key, and of arrays and tables inside each other. -/
def nestingLimit : Nat := 79

/-- A key: its parts in front of the last dot, and the last part. -/
def key : Reader (List Text × Text) := do
  let parts ← check (·.length ≤ nestingLimit) (sepBy keyPart (char '.'))
  match parts.getLast? with
  | some last => return (parts.dropLast, last)
  | none => failure

/-! ## Values -/

/-- A boolean. -/
def boolean : Reader Bool :=
  (do word "true".toList; return true) <|> (do word "false".toList; return false)

/-- A value that holds no other values. -/
def scalar : Reader Node :=
  Node.leaf <$>
    ((string <&> Value.string) <|> (time <&> Value.time) <|> (float <&> Value.float)
      <|> (integer <&> Value.integer) <|> (boolean <&> Value.boolean))

/-- An array of what a reader takes. A comma may follow the last item. -/
def array (item : Reader Node) : Reader Node := do
  let _ ← char '['
  let items ← sepBy (do padding; let value ← item; padding; return value) (char ',')
  if !items.isEmpty then
    let _ ← optional (char ',')
  padding
  let _ ← char ']'
  return .array items

/-- A key with what a reader takes as its value, on one line. -/
def keyValue (item : Reader Node) : Reader ((List Text × Text) × Node) := do
  let place ← key
  let _ ← char '='
  blanks
  let value ← item
  return (place, value)

/-- An inline table of what a reader takes. -/
def inlineTable (item : Reader Node) : Reader Node := do
  let _ ← char '\x7b'
  let pairs ← sepBy (do let pair ← keyValue item; blanks; return pair) (char ',')
  blanks
  let _ ← char '\x7d'
  match pairs.foldlM (fun entries ((path, last), value) => assign path last value .header entries)
      ([] : Entries) with
  | some entries => return .table .inlined entries
  | none => failure

/-- A value with at most a given number of arrays and inline tables inside each other. -/
def value : Nat → Reader Node
  | 0 => scalar
  | depth + 1 => array (value depth) <|> inlineTable (value depth) <|> scalar

/-! ## Lines -/

/-- What a line says. -/
inductive Line where
  | blank
  | assignment (path : List Text) (key : Text) (value : Node)
  | tableHeader (path : List Text) (key : Text)
  | elementHeader (path : List Text) (key : Text)

/-- The header of an element of an array of tables. -/
def elementHeader : Reader Line := do
  word ['[', '[']
  let (path, last) ← key
  word [']', ']']
  return .elementHeader path last

/-- The header of a table. -/
def tableHeader : Reader Line := do
  let _ ← char '['
  let (path, last) ← key
  let _ ← char ']'
  return .tableHeader path last

/-- An assignment. -/
def assignment : Reader Line := do
  let ((path, last), value) ← keyValue (value nestingLimit)
  return .assignment path last value

/-- One line, with its line end. -/
def line : Reader Line := do
  blanks
  let said ← optional (elementHeader <|> tableHeader <|> assignment)
  lineEnd
  return said.getD .blank

/-! ## Documents -/

/-- A document under construction: all its places, and the path of the table that assignments go
to. -/
structure Document where
  root : Entries
  current : List Text

/-- The document after one more line, unless the line contradicts those before it. -/
def Document.add (document : Document) : Line → Option Document
  | .blank => some document
  | .assignment path key value => do
    let root ← within false (assign path key value) document.current .header document.root
    return { document with root }
  | .tableHeader path key => do
    return ⟨← openTable path key document.root, path ++ [key]⟩
  | .elementHeader path key => do
    return ⟨← openElement path key document.root, path ++ [key]⟩

/-- The text without a byte order mark at its start. -/
def dropMark : Text → Text
  | '\ufeff' :: rest => rest
  | text => text

/-- The table that a document stands for, if it is well-formed. -/
def parse? (text : Text) : Option Table := do
  let lines ← Reader.all line (dropMark text)
  let document ← lines.foldlM Document.add ⟨[], []⟩
  Entries.table? document.root

/-- Decodes a document. For a text that is none, no reason is given. -/
def decode : Decoder := fun text =>
  match parse? text with
  | some table => .ok table
  | none => .error []

theorem decode_eq_ok_iff {text : Text} {table : Table} :
    decode text = .ok table ↔ parse? text = some table := by
  unfold decode
  cases parse? text <;> simp

end Highlighter.Toml
