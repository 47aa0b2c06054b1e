import Highlighter.Text
import Highlighter.Unicode.Lowercase

/-!
# Token types

What a stretch of script text is, as far as its colors are concerned.

* `TokenType.name`, `TokenType.ofName?`: the names used in settings, read without regard to case.
* `TokenType.styled`: the types that are given a style of their own, in their listing order.
-/

namespace Highlighter

/-- The kinds of text that are told apart by style. -/
inductive TokenType where
  | comment
  | string
  | char
  | number
  | keyword
  | operator
  | default
deriving DecidableEq, Repr

namespace TokenType

/-- The types that are given a style of their own. -/
def styled : List TokenType := [comment, string, char, number, keyword, operator]

/-- All types. -/
def all : List TokenType := styled ++ [default]

theorem mem_all (type : TokenType) : type ∈ all := by cases type <;> decide

theorem mem_styled_iff {type : TokenType} : type ∈ styled ↔ type ≠ default := by
  cases type <;> decide

/-- The name of a type in settings and listings. -/
def name : TokenType → String
  | comment => "comment"
  | string => "string"
  | char => "char"
  | number => "number"
  | keyword => "keyword"
  | operator => "operator"
  | default => "default"

/-- The type that a name stands for, whatever the case of its letters. -/
def ofName? (text : Text) : Option TokenType :=
  all.find? fun type => type.name.toList = Unicode.lowercase text

end TokenType

end Highlighter
