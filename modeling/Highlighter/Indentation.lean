import Highlighter.Scan

/-!
# Indentation

The depth of a position is the number of braces open there. Braces in strings and comments are
not operators, so they do not count, and a brace that closes nothing is ignored.

* `indentLevel`: the depth at a caret.
* `newlineIndent`: what to insert there for a new line.
-/

namespace Highlighter

/-- The depth after a step, from the depth before it. -/
def Step.nest (depth : Nat) : Step → Nat
  | .token span ['{'] => if span.tokenType = .operator then depth + 1 else depth
  | .token span ['}'] => if span.tokenType = .operator then depth - 1 else depth
  | _ => depth

/-- The number of braces that are open at a caret. -/
def indentLevel (rules : List Rule) (text : Text) (caret : Nat) : Nat :=
  ((steps rules text).takeWhile (·.start < caret)).foldl Step.nest 0

/-- Whether, past spaces and tabs, the next character is a closing brace. -/
def closesNext (text : Text) : Bool :=
  (text.dropWhile fun c => c = ' ' || c = '\t').head? = some '}'

/-- The line end and the indentation to insert at a caret, one `unit` for each open brace; a line
that will begin with a closing brace has one less. -/
def newlineIndent (rules : List Rule) (text : Text) (caret : Nat) (unit : Text) : Text :=
  let level := indentLevel rules text caret
  let level := if closesNext (text.drop caret) then level - 1 else level
  '\n' :: (List.replicate level unit).flatten

end Highlighter
