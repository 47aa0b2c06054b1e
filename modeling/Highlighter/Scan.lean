import Highlighter.Rule.Probe

/-!
# Scanning a text

A scan goes through a text from left to right. At every position the first rule that finds a
token claims it, and where no rule does, one character passes through plain.

* `Span`: where a token lies and which rule claimed it.
* `Step`: a token or a plain character.
* `steps`, `spans`: the steps of a scan, and the tokens among them.
* `stepsFrom_skip`: characters that belong to a token are gone past without a step.
-/

namespace Highlighter

/-- A token, from offset `start` up to, but without, offset `stop`. -/
structure Span where
  start : Nat
  stop : Nat
  rule : Rule
deriving DecidableEq, Repr

/-- The type of a token. -/
def Span.tokenType (span : Span) : TokenType := span.rule.tokenType

/-- One step of a scan: a token with its text, or a character that no rule claimed. -/
inductive Step where
  | token (span : Span) (text : Text)
  | plain (position : Nat) (char : Char)
deriving DecidableEq, Repr

namespace Step

/-- The offset at which a step begins. -/
def start : Step → Nat
  | token span _ => span.start
  | plain position _ => position

/-- The offset at which a step ends. -/
def stop : Step → Nat
  | token span _ => span.stop
  | plain position _ => position + 1

/-- The characters that a step goes past. -/
def text : Step → Text
  | token _ text => text
  | plain _ char => [char]

/-- The token of a step, if it is one. -/
def span? : Step → Option Span
  | token span _ => some span
  | plain .. => none

end Step

/-- The steps from an offset on, with the character `previous` behind it. The next `skip`
characters belong to a token that has been claimed. -/
def stepsFrom (rules : List Rule) (previous : Option Char) (position skip : Nat) :
    Text → List Step
  | [] => []
  | c :: rest =>
    match skip with
    | skip + 1 => stepsFrom rules (some c) (position + 1) skip rest
    | 0 =>
      match Rule.firstMatch? rules previous (c :: rest) with
      | some (rule, width) =>
        .token ⟨position, position + width, rule⟩ ((c :: rest).take width)
          :: stepsFrom rules (some c) (position + 1) (width - 1) rest
      | none => .plain position c :: stepsFrom rules (some c) (position + 1) 0 rest

theorem stepsFrom_skip (rules : List Rule) (previous : Option Char) (position skip : Nat)
    (text : Text) :
    stepsFrom rules previous position skip text =
      stepsFrom rules ((text.take skip).getLast?.or previous) (position + skip) 0
        (text.drop skip) := by
  induction skip generalizing previous position text with
  | zero => simp
  | succ skip ih =>
    cases text with
    | nil => simp [stepsFrom]
    | cons c rest =>
      rw [stepsFrom, ih]
      simp only [List.take_succ_cons, List.drop_succ_cons, List.getLast?_cons]
      cases (rest.take skip).getLast? <;> simp [Nat.add_assoc, Nat.add_comm 1 skip]

/-- The steps of a scan of a text. -/
def steps (rules : List Rule) (text : Text) : List Step := stepsFrom rules none 0 0 text

/-- The tokens of a text. -/
def spans (rules : List Rule) (text : Text) : List Span := (steps rules text).filterMap Step.span?

end Highlighter
