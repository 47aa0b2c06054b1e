import Highlighter.Scan

/-!
# Tokens at a caret

Besides the tokens that rules claim, the words between them count: runs of word characters that
no rule claimed, which are the identifiers of the script.

* `Token`: a claimed token or a word.
* `tokens`: all of them, from left to right.
* `tokenAt`: the one that a caret is in or behind, or else the one that it stands before.
-/

namespace Highlighter

/-- A token or, without a rule, a word; from offset `start` up to, but without, `stop`. -/
structure Token where
  start : Nat
  stop : Nat
  rule : Option Rule
deriving DecidableEq, Repr

namespace Token

/-- The characters of a token in the text it comes from. -/
def text (token : Token) (source : Text) : Text := Text.slice source token.start token.stop

/-- Whether a caret is inside a token or directly behind it. -/
def touches (token : Token) (caret : Nat) : Bool := token.start < caret && caret ≤ token.stop

end Token

/-- Puts the word character at offset `position` in front of the tokens after it: it joins a word
that starts right behind it, and is a word by itself otherwise. -/
def consWord (position : Nat) : List Token → List Token
  | ⟨start, stop, none⟩ :: rest =>
    if start = position + 1 then ⟨position, stop, none⟩ :: rest
    else ⟨position, position + 1, none⟩ :: ⟨start, stop, none⟩ :: rest
  | rest => ⟨position, position + 1, none⟩ :: rest

/-- The tokens and words among the steps of a scan. -/
def tokensOf : List Step → List Token
  | [] => []
  | .token span _ :: rest => ⟨span.start, span.stop, some span.rule⟩ :: tokensOf rest
  | .plain position c :: rest =>
    if isIdentifier c then consWord position (tokensOf rest) else tokensOf rest

/-- The tokens and words of a text. -/
def tokens (rules : List Rule) (text : Text) : List Token := tokensOf (steps rules text)

/-- The token that a caret is inside or behind; if there is none, the token that starts there. -/
def tokenAt (rules : List Rule) (text : Text) (caret : Nat) : Option Token :=
  let all := tokens rules text
  (all.find? (·.touches caret)).or (all.find? (·.start = caret))

end Highlighter
