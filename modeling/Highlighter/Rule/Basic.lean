import Highlighter.CharClass
import Highlighter.TokenType

/-!
# Lexical rules

A lexical rule recognises one form of token. A scan tries a list of rules, in order, at every
position that no token has claimed yet.

* `Rule`: the eight rules, with their names and the type of token each makes.
* `Rule.priority`: the order in which they are tried unless another list is given.
* `Rule.couldStart`: a test on the first character alone.
* `Probe`: what trying a rule at a position tells.
-/

namespace Highlighter

/-- The forms of token. -/
inductive Rule where
  | lineComment
  | blockComment
  | verbatimString
  | quotedString
  | charLiteral
  | keyword
  | number
  | symbol
deriving DecidableEq, Repr

namespace Rule

/-- All rules, in the order in which they are tried. -/
def priority : List Rule :=
  [lineComment, blockComment, verbatimString, quotedString, charLiteral, keyword, number, symbol]

theorem mem_priority (rule : Rule) : rule ∈ priority := by cases rule <;> decide

/-- The name of a rule in listings. -/
def name : Rule → String
  | lineComment => "LineComment"
  | blockComment => "BlockComment"
  | verbatimString => "VerbatimString"
  | quotedString => "QuotedString"
  | charLiteral => "CharLiteral"
  | keyword => "Keyword"
  | number => "Number"
  | symbol => "Symbol"

/-- The rule of a given name. -/
def ofName? (name : String) : Option Rule := priority.find? (·.name = name)

/-- The type of the tokens that a rule makes. -/
def tokenType : Rule → TokenType
  | lineComment | blockComment => .comment
  | verbatimString | quotedString => .string
  | charLiteral => .char
  | keyword => .keyword
  | number => .number
  | symbol => .operator

/-- Whether a token of this form can begin with the character `c`. -/
def couldStart : Rule → Char → Bool
  | lineComment, c | blockComment, c => c = '/'
  | verbatimString, c | quotedString, c => c = '"'
  | charLiteral, c => c = '\''
  | keyword, c => c.isLower
  | number, c => c.isDigit || c = '.'
  | symbol, c => isSymbol c

end Rule

/-- What trying a rule at a position tells: a token of some width, or no token after reading some
characters in vain. -/
inductive Probe where
  | accept (width : Nat)
  | reject (read : Nat)
deriving DecidableEq, Repr

namespace Probe

/-- Whether a token was found. -/
def accepted : Probe → Bool
  | accept _ => true
  | reject _ => false

/-- How many characters stay read. -/
def read : Probe → Nat
  | accept width => width
  | reject read => read

/-- The width of the token found, if any. -/
def width? : Probe → Option Nat
  | accept width => some width
  | reject _ => none

end Probe

end Highlighter
