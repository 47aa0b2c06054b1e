import Highlighter.Text
import Highlighter.Unicode.Alphanumeric
import Highlighter.Unicode.WhiteSpace

/-!
# Character classes

The classes of characters that the lexical rules ask about.

* `isNewline`, `isSymbol`, `isIdentifier`: line ends, operator characters, word characters.
* `isDelimiter`: what may stand next to a word or a number.
* `atBoundary`: whether a word or a number may start after a given character.
-/

namespace Highlighter

/-- The characters that operators are made of. -/
def symbolChars : Text := "\x7b\x7d[]().,;:?+-*/%&|^!~=<>".toList

/-- Whether a character ends a line. -/
def isNewline (c : Char) : Bool := c = '\n' || c = '\r'

/-- Whether a character belongs to operators. -/
def isSymbol (c : Char) : Bool := symbolChars.contains c

/-- Whether a character belongs to words. -/
def isIdentifier (c : Char) : Bool := c = '_' || Unicode.isAlphanumeric c

/-- Whether a character is a delimiter: a symbol, or white space if `blanks` counts as such, or a
word character if `words` does. -/
def isDelimiter (c : Char) (blanks words : Bool) : Bool :=
  isSymbol c || (blanks && Unicode.isWhiteSpace c) || (words && isIdentifier c)

/-- Whether a word or a number may start after the character `previous`: at the start of the
text, after a symbol and after white space. -/
def atBoundary (previous : Option Char) : Bool := previous.all (isDelimiter · true false)

end Highlighter
