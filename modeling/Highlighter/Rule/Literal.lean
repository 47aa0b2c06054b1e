import Highlighter.Rule.Basic

/-!
# String and character literals

A quoted literal ends at the first quote that does not directly follow a backslash; a backslash
has no other effect, so two of them do not cancel. A verbatim string follows an `@` and ends at
the first quote that is not doubled; backslashes mean nothing in it. A literal that is not closed
runs to the end of the text.
-/

namespace Highlighter.Rule

/-- The number of characters up to and including the first `quote` that does not follow a
backslash, where `last` is the character before the text. -/
def quotedWidth (quote : Char) : Char → Text → Nat
  | _, [] => 0
  | last, c :: rest =>
    if c = quote ∧ last ≠ '\\' then 1 else quotedWidth quote c rest + 1

theorem quotedWidth_le (quote last : Char) (text : Text) :
    quotedWidth quote last text ≤ text.length := by
  fun_induction quotedWidth quote last text <;> simp_all

/-- A literal between two `quote` characters at the start of a text. -/
def probeQuoted (quote : Char) : Text → Probe
  | [] => .reject 0
  | c :: rest => if c = quote then .accept (1 + quotedWidth quote quote rest) else .reject 1

/-- A quoted string, which must not follow an `@`. -/
def probeQuotedString (previous : Option Char) (text : Text) : Probe :=
  if previous = some '@' then .reject 0 else probeQuoted '"' text

/-- A character literal. -/
def probeCharLiteral (text : Text) : Probe := probeQuoted '\'' text

/-- The number of characters up to and including the first quote that is not doubled. -/
def verbatimWidth : Text → Nat
  | [] => 0
  | '"' :: '"' :: rest => verbatimWidth rest + 2
  | '"' :: _ => 1
  | _ :: rest => verbatimWidth rest + 1

theorem verbatimWidth_le (text : Text) : verbatimWidth text ≤ text.length := by
  fun_induction verbatimWidth text <;> simp_all

/-- A verbatim string, which must follow an `@`. -/
def probeVerbatimString (previous : Option Char) (text : Text) : Probe :=
  if previous ≠ some '@' then .reject 0
  else match text with
    | [] => .reject 0
    | c :: rest => if c = '"' then .accept (1 + verbatimWidth rest) else .reject 1

/-! ## Reading ends within the text -/

theorem read_probeQuoted_le (quote : Char) (text : Text) :
    (probeQuoted quote text).read ≤ text.length := by
  unfold probeQuoted
  split
  · simp [Probe.read]
  · rename_i c rest
    have := quotedWidth_le quote quote rest
    split
    · simp only [Probe.read, List.length_cons]
      omega
    · simp [Probe.read]

theorem read_probeQuotedString_le (previous : Option Char) (text : Text) :
    (probeQuotedString previous text).read ≤ text.length := by
  unfold probeQuotedString
  split
  · exact Nat.zero_le _
  · exact read_probeQuoted_le _ text

theorem read_probeVerbatimString_le (previous : Option Char) (text : Text) :
    (probeVerbatimString previous text).read ≤ text.length := by
  unfold probeVerbatimString
  split
  · exact Nat.zero_le _
  · split
    · exact Nat.zero_le _
    · rename_i c rest
      have := verbatimWidth_le rest
      split
      · simp only [Probe.read, List.length_cons]
        omega
      · simp [Probe.read]

end Highlighter.Rule
