import Highlighter.Text

/-!
# Readers

A reader takes something from the start of a text, or fails. Readers that follow each other are
written as a `do` block, `first <|> second` reads the second where the first fails, and
`optional reader` reads nothing there.

* `satisfy`, `char`, `word`, `takeWhile`: single characters, fixed words and runs.
* `many`, `sepBy`: repetition.
* `all`: the whole text as a repetition of one reader.
-/

namespace Highlighter.Toml

/-- Takes something from the start of a text. -/
abbrev Reader := StateT Text Option

namespace Reader

/-- A character that satisfies a condition. -/
def satisfy (condition : Char → Bool) : Reader Char
  | c :: rest => if condition c then some (c, rest) else none
  | [] => none

/-- One fixed character. -/
def char (c : Char) : Reader Char := satisfy (· = c)

/-- One of several characters. -/
def oneOf (chars : Text) : Reader Char := satisfy chars.contains

/-- A fixed word. -/
def word (expected : Text) : Reader Unit := fun text =>
  if expected.isPrefixOf text then some ((), text.drop expected.length) else none

/-- The characters up to the first one that does not satisfy a condition; maybe none. -/
def takeWhile (condition : Char → Bool) : Reader Text := fun text =>
  some (text.takeWhile condition, text.dropWhile condition)

/-- The characters up to the first one that does not satisfy a condition; at least one. -/
def takeWhile1 (condition : Char → Bool) : Reader Text := do
  let c ← satisfy condition
  let rest ← takeWhile condition
  return c :: rest

/-- Succeeds at the end of the text only. -/
def atEnd : Reader Unit
  | [] => some ((), [])
  | _ :: _ => none

/-- The characters that a reader takes. -/
def literal {α : Type} (reader : Reader α) : Reader Text := fun text =>
  (reader text).map fun (_, rest) => (text.take (text.length - rest.length), rest)

/-- What a reader takes, if it satisfies a condition. -/
def check {α : Type} (condition : α → Bool) (reader : Reader α) : Reader α := do
  let a ← reader
  if condition a then return a else failure

/-- At most `limit` repetitions of a reader, for as long as it succeeds. -/
def upTo {α : Type} (reader : Reader α) : Nat → Text → List α × Text
  | 0, text => ([], text)
  | limit + 1, text =>
    match reader text with
    | some (a, rest) =>
      let (as, rest) := upTo reader limit rest
      (a :: as, rest)
    | none => ([], text)

/-- A reader that takes at least one character each time, repeated for as long as it succeeds. -/
def many {α : Type} (reader : Reader α) : Reader (List α) := fun text =>
  some (upTo reader text.length text)

/-- A reader repeated with separators between; maybe not at all. -/
def sepBy {α β : Type} (reader : Reader α) (separator : Reader β) : Reader (List α) :=
  (do
    let first ← reader
    let rest ← many (do let _ ← separator; reader)
    return first :: rest)
  <|> pure []

/-- A reader repeated up to the end of the text, in at most `limit` steps. -/
def allWithin {α : Type} (reader : Reader α) : Nat → Text → Option (List α)
  | _, [] => some []
  | 0, _ :: _ => none
  | limit + 1, text =>
    match reader text with
    | some (a, rest) => (allWithin reader limit rest).map (a :: ·)
    | none => none

/-- The whole text, read as a repetition of a reader that takes at least one character. -/
def all {α : Type} (reader : Reader α) (text : Text) : Option (List α) :=
  allWithin reader text.length text

end Reader

end Highlighter.Toml
