import Highlighter.Rule.Probe

/-!
# Cursors

A cursor reads a text tentatively. What lies before its committed offset is settled; it may read
ahead of that and later either commit to what it read or roll back.

* `Cursor.Valid`: the committed offset, the speculative offset and the end follow in this order.
* `Cursor.readNext`, `Cursor.commit`, `Cursor.rollback`, `Cursor.rollbackBy`: the moves.
* `Cursor.narrow`, `Cursor.probe`, `Cursor.claim`: word lists and lexical rules at a cursor.
-/

namespace Highlighter

/-- A text with a committed and a speculative offset. -/
structure Cursor where
  source : Text
  committed : Nat
  speculative : Nat
deriving DecidableEq, Repr

namespace Cursor

/-- A cursor at the start of a text. -/
def ofText (source : Text) : Cursor := ⟨source, 0, 0⟩

/-- The committed offset, the speculative offset and the end of the text follow in this order. -/
def Valid (c : Cursor) : Prop := c.committed ≤ c.speculative ∧ c.speculative ≤ c.source.length

instance (c : Cursor) : Decidable c.Valid := inferInstanceAs (Decidable (_ ∧ _))

/-! ## Looking -/

/-- The text not read yet. -/
def ahead (c : Cursor) : Text := c.source.drop c.speculative

/-- The character that would be read next. -/
def peek (c : Cursor) : Option Char := c.ahead.head?

/-- The character before an offset. -/
def before (c : Cursor) : Nat → Option Char
  | 0 => none
  | offset + 1 => c.source[offset]?

/-- The character read last. -/
def current (c : Cursor) : Option Char := c.before c.speculative

/-- The last committed character. -/
def previous (c : Cursor) : Option Char := c.before c.committed

/-- Whether everything has been read. -/
def atEnd (c : Cursor) : Bool := c.source.length ≤ c.speculative

/-- The text between two offsets. -/
def slice (c : Cursor) (start stop : Nat) : Text := Text.slice c.source start stop

/-! ## Moving -/

/-- Moves the speculative offset on by `width` characters. -/
def advance (c : Cursor) (width : Nat) : Cursor := { c with speculative := c.speculative + width }

/-- Reads one character; at the end there is none to read and the cursor stays. -/
def readNext (c : Cursor) : Option Char × Cursor :=
  match c.peek with
  | some ch => (some ch, c.advance 1)
  | none => (none, c)

/-- Settles what has been read. -/
def commit (c : Cursor) : Cursor := { c with committed := c.speculative }

/-- Gives back everything that is not committed. -/
def rollback (c : Cursor) : Cursor := { c with speculative := c.committed }

/-- Gives back `count` characters, or all those that are not committed if there are fewer. -/
def rollbackBy (c : Cursor) (count : Nat) : Cursor :=
  { c with speculative := max (c.speculative - count) c.committed }

/-! ## Words and rules -/

/-- Narrows a word list along the text ahead: the length of the word found, and the cursor after
it or, when none is found, after all that was read. -/
def narrow (words : List Text) (continues : Char → Bool) (c : Cursor) : Option Nat × Cursor :=
  let found := Highlighter.narrow words continues c.ahead
  (found.longest, c.advance found.width)

/-- Tries a rule where the cursor reads, without committing: whether it accepts, and the cursor
where the rule stops reading. -/
def probe (rule : Rule) (c : Cursor) : Bool × Cursor :=
  let outcome := rule.probe c.previous c.ahead
  (outcome.accepted, c.advance outcome.read)

/-- Tries a rule and commits to its token, or rolls back if it finds none. -/
def claim (rule : Rule) (c : Cursor) : Bool × Cursor :=
  let (accepted, probed) := probe rule c
  if c.peek.any rule.couldStart && accepted && c.committed < probed.speculative then
    (true, probed.commit)
  else (false, probed.rollback)

end Cursor

end Highlighter
