import Highlighter.Rule.Basic

/-!
# Comments

A line comment runs from `//` to the end of the line. A block comment runs from `/*` to the first
`*/` after it; comments do not nest, and the star of the opener is no part of the closer.
-/

namespace Highlighter.Rule

/-- A line comment at the start of `text`, without the line end. -/
def probeLineComment : Text → Probe
  | '/' :: '/' :: rest => .accept (2 + (rest.takeWhile (!isNewline ·)).length)
  | '/' :: _ :: _ => .reject 2
  | _ :: _ => .reject 1
  | [] => .reject 0

/-- The number of characters up to and including the first `*/`, or all of them without one. -/
def blockWidth : Text → Nat
  | [] => 0
  | '*' :: '/' :: _ => 2
  | _ :: rest => blockWidth rest + 1

theorem blockWidth_le (text : Text) : blockWidth text ≤ text.length := by
  fun_induction blockWidth text <;> simp_all

/-- A block comment at the start of `text`; one that is not closed runs to the end. -/
def probeBlockComment : Text → Probe
  | '/' :: '*' :: rest => .accept (2 + blockWidth rest)
  | '/' :: _ :: _ => .reject 2
  | _ :: _ => .reject 1
  | [] => .reject 0

/-! ## Reading ends within the text -/

theorem read_probeLineComment_le (text : Text) : (probeLineComment text).read ≤ text.length := by
  unfold probeLineComment
  split
  · rename_i rest
    have := (List.takeWhile_prefix (l := rest) (!isNewline ·)).length_le
    simp only [Probe.read, List.length_cons]
    omega
  all_goals simp [Probe.read]

theorem read_probeBlockComment_le (text : Text) :
    (probeBlockComment text).read ≤ text.length := by
  unfold probeBlockComment
  split
  · rename_i rest
    have := blockWidth_le rest
    simp only [Probe.read, List.length_cons]
    omega
  all_goals simp [Probe.read]

end Highlighter.Rule
