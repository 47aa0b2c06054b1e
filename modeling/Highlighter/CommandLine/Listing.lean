import Highlighter.Quoted
import Highlighter.Token

/-!
# Listings

* `Span.listing`: the line of a listing that shows one token.
* `Token.listing`: the line that shows the token at a caret.
-/

namespace Highlighter

/-- A text filled up with spaces on its left. -/
def padLeft (width : Nat) (text : Text) : Text :=
  List.replicate (width - text.length) ' ' ++ text

/-- A text filled up with spaces on its right. -/
def padRight (width : Nat) (text : Text) : Text :=
  text ++ List.replicate (width - text.length) ' '

/-- The line for a token: its offsets, its type and its text between quotes. -/
def Span.listing (span : Span) (text : Text) : Text :=
  padLeft 6 (Text.decimal span.start) ++ "..".toList ++ padRight 6 (Text.decimal span.stop)
    ++ [' '] ++ padRight 8 span.tokenType.name.toList ++ [' '] ++ quote text ++ ['\n']

/-- The name of the form of a token; words are identifiers. -/
def Token.form (token : Token) : String :=
  match token.rule with
  | some rule => rule.name
  | none => "Identifier"

/-- The line for the token at a caret: its offsets, its form and its text between quotes. -/
def Token.listing (token : Token) (source : Text) : Text :=
  Text.decimal token.start ++ "..".toList ++ Text.decimal token.stop ++ [' ']
    ++ token.form.toList ++ [' '] ++ quote (token.text source) ++ ['\n']

end Highlighter
