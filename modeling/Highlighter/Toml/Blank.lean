import Highlighter.Toml.Reader

/-!
# Blanks, line ends and comments
-/

namespace Highlighter.Toml

open Reader

/-- The characters that separate words on a line. -/
def isBlank (c : Char) : Bool := c = ' ' || c = '\t'

/-- Characters beyond ASCII, which stand for themselves in strings and comments. -/
def isForeign (c : Char) : Bool := 0x80 ≤ c.toNat

/-- The characters that a comment may hold. -/
def isCommentChar (c : Char) : Bool := c = '\t' || (' ' ≤ c && c ≤ '~') || isForeign c

/-- Blanks; maybe none. -/
def blanks : Reader Unit := do
  let _ ← takeWhile isBlank

/-- A line end: a line feed, alone or after a carriage return. It reads as a line feed. -/
def newline : Reader Char := do
  let _ ← optional (char '\r')
  char '\n'

/-- A comment, without the line end. -/
def comment : Reader Unit := do
  let _ ← char '#'
  let _ ← takeWhile isCommentChar

/-- What may stand between the items of an array: blanks, line ends and comments. -/
def padding : Reader Unit := do
  let _ ← many ((do let _ ← takeWhile1 isBlank) <|> (do let _ ← newline) <|> comment)

/-- What may follow on a line: blanks and a comment, up to the line end or the end of the text. -/
def lineEnd : Reader Unit := do
  blanks
  let _ ← optional comment
  (do let _ ← newline) <|> atEnd

end Highlighter.Toml
