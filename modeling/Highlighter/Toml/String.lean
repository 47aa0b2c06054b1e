import Highlighter.Hex
import Highlighter.Toml.Blank

/-!
# TOML strings

A basic string stands between quotation marks and knows escapes; a literal string stands between
apostrophes and does not. Either may go over several lines between three marks instead of one.
-/

namespace Highlighter.Toml

open Reader

/-- The characters that stand for themselves in a basic string. -/
def isBasicChar (c : Char) : Bool :=
  c = '\t' || (' ' ≤ c && c ≤ '~' && c ≠ '"' && c ≠ '\\') || isForeign c

/-- The characters that a literal string may hold. -/
def isLiteralChar (c : Char) : Bool :=
  c = '\t' || (' ' ≤ c && c ≤ '~' && c ≠ '\'') || isForeign c

/-- A character of a given code point, read from a fixed number of hexadecimal digits. -/
def codePoint : Nat → Nat → Reader Char
  | 0, n => if n.isValidChar then pure (Char.ofNat n) else failure
  | digits + 1, n => do
    let c ← satisfy fun c => (hexDigit? c).isSome
    codePoint digits (16 * n + (hexDigit? c).getD 0)

/-- An escape: a backslash and what it makes of the characters after it. -/
def escapeSequence : Reader Char := do
  let _ ← char '\\'
  match ← satisfy fun _ => true with
  | 'b' => return '\x08'
  | 't' => return '\t'
  | 'n' => return '\n'
  | 'f' => return '\x0c'
  | 'r' => return '\r'
  | '"' => return '"'
  | '\\' => return '\\'
  | 'u' => codePoint 4 0
  | 'U' => codePoint 8 0
  | _ => failure

/-- A basic string on one line. -/
def basicString : Reader Text := do
  let _ ← char '"'
  let text ← many (satisfy isBasicChar <|> escapeSequence)
  let _ ← char '"'
  return text

/-- A literal string on one line. -/
def literalString : Reader Text := do
  let _ ← char '\''
  let text ← takeWhile isLiteralChar
  let _ ← char '\''
  return text

/-- A backslash at the end of a line, which makes the line end and all blanks after it vanish. -/
def lineContinuation : Reader Text := do
  let _ ← char '\\'
  blanks
  let _ ← newline
  let _ ← many (satisfy isBlank <|> newline)
  return []

/-- A string between three `mark`s. A line end right after the opening ones is no part of it. One
or two marks may stand anywhere in it, also right before the closing ones. -/
def longString (mark : Char) (content : Reader Text) : Reader Text := do
  word [mark, mark, mark]
  let _ ← optional newline
  let parts ← many (content <|> check (·.length < 3) (takeWhile1 (· = mark)))
  let marks ← check (fun run => 3 ≤ run.length && run.length ≤ 5) (takeWhile (· = mark))
  return parts.flatten ++ marks.drop 3

/-- A basic string over several lines. -/
def longBasicString : Reader Text :=
  longString '"' <|
    takeWhile1 isBasicChar <|> (newline <&> ([·])) <|> lineContinuation
      <|> (escapeSequence <&> ([·]))

/-- A literal string over several lines. -/
def longLiteralString : Reader Text :=
  longString '\'' (takeWhile1 isLiteralChar <|> (newline <&> ([·])))

/-- A string of any form. -/
def string : Reader Text :=
  longBasicString <|> basicString <|> longLiteralString <|> literalString

end Highlighter.Toml
