import Highlighter.Rule.Comment
import Highlighter.Rule.Literal
import Highlighter.Rule.Word

/-!
# Trying a rule

A rule sees the text ahead and, of the text behind, the last character only.

* `Rule.probe`: the outcome of a rule at a position.
* `Rule.match?`: the width of the token that a rule finds, if any.
* `Rule.firstMatch?`: the first rule of a list that finds one.
* `match?_pos`, `match?_le`: a token has at least one character, and lies within the text.
-/

namespace Highlighter.Rule

/-- Tries a rule at a position with the character `previous` behind and `text` ahead. -/
def probe (rule : Rule) (previous : Option Char) (text : Text) : Probe :=
  match rule with
  | lineComment => probeLineComment text
  | blockComment => probeBlockComment text
  | verbatimString => probeVerbatimString previous text
  | quotedString => probeQuotedString previous text
  | charLiteral => probeCharLiteral text
  | keyword => probeKeyword previous text
  | number => probeNumber previous text
  | symbol => probeSymbol text

/-- The width of the token that a rule finds, if it finds one that is not empty. Rules that the
first character rules out are not tried. -/
def match? (rule : Rule) (previous : Option Char) (text : Text) : Option Nat :=
  if text.head?.any rule.couldStart then
    (rule.probe previous text).width?.filter (0 < ·)
  else none

/-- The first rule of a list that finds a token, with the width of the token. -/
def firstMatch? (rules : List Rule) (previous : Option Char) (text : Text) : Option (Rule × Nat) :=
  rules.findSome? fun rule => (rule.match? previous text).map (rule, ·)

/-! ## Widths -/

theorem read_probe_le (rule : Rule) (previous : Option Char) (text : Text) :
    (rule.probe previous text).read ≤ text.length := by
  cases rule with
  | lineComment => exact read_probeLineComment_le text
  | blockComment => exact read_probeBlockComment_le text
  | verbatimString => exact read_probeVerbatimString_le previous text
  | quotedString => exact read_probeQuotedString_le previous text
  | charLiteral => exact read_probeQuoted_le _ text
  | keyword => exact read_probeKeyword_le previous text
  | number => exact read_probeNumber_le previous text
  | symbol => exact read_probeSymbol_le text

theorem match?_pos {rule : Rule} {previous : Option Char} {text : Text} {width : Nat}
    (h : rule.match? previous text = some width) : 0 < width := by
  unfold match? at h
  split at h
  · simpa using (Option.filter_eq_some_iff.mp h).2
  · cases h

theorem match?_le {rule : Rule} {previous : Option Char} {text : Text} {width : Nat}
    (h : rule.match? previous text = some width) : width ≤ text.length := by
  unfold match? at h
  split at h
  · have found := (Option.filter_eq_some_iff.mp h).1
    have bound := read_probe_le rule previous text
    cases outcome : rule.probe previous text with
    | accept w => simp_all [Probe.width?, Probe.read]
    | reject _ => simp [outcome, Probe.width?] at found
  · cases h

end Highlighter.Rule
