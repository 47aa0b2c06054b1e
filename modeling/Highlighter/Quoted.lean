import Highlighter.Hex
import Highlighter.Unicode.Printable

/-!
# Quoted text

Listings show text between quotes and on one line. Quotes and backslashes are written with a
backslash before them, the usual control characters by a letter, and every other character that
does not show by itself as `\u`, with its code point in hexadecimal between braces.

* `needsCodePoint`: the characters that are written by their code points.
* `quoteChar`: how one character is written.
* `quote`: a text between quotes.
-/

namespace Highlighter

/-- A character as the hexadecimal number of its code point. -/
def codePointEscape (c : Char) : Text :=
  "\\u\x7b".toList ++ Nat.toDigits 16 c.toNat ++ ['}']

/-- The two halfwidth sound marks. They belong to the character before them, but have a cell of
their own. -/
def isSoundMark (c : Char) : Bool := c = '\uff9e' || c = '\uff9f'

/-- Whether a character would not be seen, or be drawn onto the one before it. -/
def needsCodePoint (c : Char) : Bool :=
  Unicode.isUnprintable c || Unicode.isDefaultIgnorable c
    || (Unicode.isGraphemeExtend c && !isSoundMark c)

/-- How a character is written between quotes. -/
def quoteChar (c : Char) : Text :=
  match c with
  | '\x00' => ['\\', '0']
  | '\t' => ['\\', 't']
  | '\r' => ['\\', 'r']
  | '\n' => ['\\', 'n']
  | '"' => ['\\', '"']
  | '\\' => ['\\', '\\']
  | c => if needsCodePoint c then codePointEscape c else [c]

/-- A text between quotes. -/
def quote (text : Text) : Text := '"' :: text.flatMap quoteChar ++ ['"']

end Highlighter
