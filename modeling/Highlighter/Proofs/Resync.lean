import Highlighter.Proofs.Scan

/-!
# Starting in the middle of a text

What comes before an offset that no token crosses says nothing about the tokens after it but by its
last character, and of that only the kind counts.

* `LeftContext`: the kinds of character that rules tell apart behind them.
* `filter_spans_append`: the tokens from an offset on are those of a scan that starts there.
* `spans_after_congr`: two texts with a common end have the same tokens in it.
-/

namespace Highlighter

/-! ## The character behind -/

/-- What rules can tell of the character behind them. -/
inductive LeftContext where
  /-- The start of the text, white space or a symbol: words and numbers may start. -/
  | boundary
  /-- An `@`: a verbatim string may start. -/
  | verbatim
  /-- Any other character. -/
  | inner
deriving DecidableEq, Repr

/-- The kind of the character behind, if there is one. -/
def LeftContext.of : Option Char → LeftContext
  | none => .boundary
  | some c =>
    if Unicode.isWhiteSpace c || isSymbol c then .boundary
    else if c = '@' then .verbatim
    else .inner

theorem atBoundary_eq (previous : Option Char) :
    atBoundary previous = decide (LeftContext.of previous = .boundary) := by
  rcases previous with _ | c
  · rfl
  · have hdelimiter : atBoundary (some c) = (Unicode.isWhiteSpace c || isSymbol c) := by
      simp [atBoundary, isDelimiter, Bool.or_comm]
    rw [hdelimiter, LeftContext.of]
    split
    · rename_i h
      rw [h]
      rfl
    · rename_i h
      rw [Bool.not_eq_true] at h
      rw [h]
      split <;> rfl

theorem eq_at_iff (previous : Option Char) :
    previous = some '@' ↔ LeftContext.of previous = .verbatim := by
  rcases previous with _ | c
  · decide
  · by_cases hc : c = '@'
    · subst hc
      decide
    · have hne : LeftContext.of (some c) ≠ .verbatim := by
        rw [LeftContext.of, if_neg hc]
        split <;> decide
      simp [hc, hne]

/-- Scans from two characters of the same kind find the same tokens. -/
theorem spansFrom_of_leftContext {p q : Option Char} (h : LeftContext.of p = LeftContext.of q)
    (rules : List Rule) (position : Nat) (text : Text) :
    spansFrom rules p position text = spansFrom rules q position text := by
  have hboundary : atBoundary p = atBoundary q := by
    rw [atBoundary_eq, atBoundary_eq, h]
  have hat : p = some '@' ↔ q = some '@' := by
    rw [eq_at_iff, eq_at_iff, h]
  rw [spansFrom, stepsFrom_congr hboundary hat, spansFrom]

/-! ## The tokens from an offset on -/

/-- The tokens from an offset on that no token crosses are those of a scan that starts there. -/
theorem filter_spans_append {rules : List Rule} {before text : Text}
    (h : ∀ span ∈ spans rules (before ++ text), ¬ span.Crosses before.length) :
    (spans rules (before ++ text)).filter (before.length ≤ ·.start) =
      spansFrom rules before.getLast? before.length text := by
  have hcross : ∀ span ∈ spansFrom rules none 0 (before ++ text),
      ¬ span.Crosses (0 + before.length) := by
    rwa [Nat.zero_add]
  obtain ⟨done, htiles, hsteps, -⟩ := stepsFrom_append (.refl rules text) hcross
  rw [Nat.zero_add] at htiles hsteps
  rw [Option.or_none] at hsteps
  have hdone : (done.filterMap Step.span?).filter (before.length ≤ ·.start) = [] := by
    rw [List.filter_eq_nil_iff]
    intro span hspan
    have := htiles.span_bounds hspan
    simp only [decide_eq_true_eq]
    omega
  rw [spans, steps, hsteps, List.filterMap_append, List.filter_append, hdone, List.nil_append,
    ← spansFrom, List.filter_eq_self]
  intro span hspan
  exact decide_eq_true (spansFrom_bounds hspan).1

/-- **One character of the text before is enough.** Where no token crosses the border between a
text and what comes before it, the tokens in the text depend on the character before it alone, and
only on whether that is a boundary, an `@` or neither. -/
theorem spans_after_congr (rules : List Rule) (before other text : Text)
    (hbefore : ∀ span ∈ spans rules (before ++ text), ¬ span.Crosses before.length)
    (hother : ∀ span ∈ spans rules (other ++ text), ¬ span.Crosses other.length)
    (hcontext : LeftContext.of before.getLast? = LeftContext.of other.getLast?) :
    ((spans rules (before ++ text)).filter (before.length ≤ ·.start)).map
        (Span.rebase before.length other.length) =
      (spans rules (other ++ text)).filter (other.length ≤ ·.start) := by
  have hrebase := spansFrom_rebase rules before.getLast? 0 text before.length other.length
  rw [Nat.zero_add, Nat.zero_add] at hrebase
  rw [filter_spans_append hbefore, filter_spans_append hother, hrebase,
    spansFrom_of_leftContext hcontext]

/-- A verbatim string and what follows it, after an `@` behind a name and after one behind a
comment. -/
theorem spans_after_verbatim :
    (∀ span ∈ spans Rule.priority ("x@".toList ++ "\"a\"\"b\" if".toList), ¬ span.Crosses 2) ∧
      (∀ span ∈ spans Rule.priority ("/**/@".toList ++ "\"a\"\"b\" if".toList),
        ¬ span.Crosses 5) ∧
      LeftContext.of "x@".toList.getLast? = LeftContext.of "/**/@".toList.getLast? ∧
      ((spans Rule.priority ("x@".toList ++ "\"a\"\"b\" if".toList)).filter (2 ≤ ·.start)).map
          (Span.rebase 2 5) = [⟨5, 11, .verbatimString⟩, ⟨12, 14, .keyword⟩] := by
  have hbefore : ∀ span ∈ spans Rule.priority ("x@".toList ++ "\"a\"\"b\" if".toList),
      ¬ span.Crosses 2 := by decide
  have hother : ∀ span ∈ spans Rule.priority ("/**/@".toList ++ "\"a\"\"b\" if".toList),
      ¬ span.Crosses 5 := by decide
  have hcontext : LeftContext.of "x@".toList.getLast? = LeftContext.of "/**/@".toList.getLast? := by
    decide
  have hspans := spans_after_congr Rule.priority "x@".toList "/**/@".toList
    "\"a\"\"b\" if".toList hbefore hother hcontext
  exact ⟨hbefore, hother, hcontext, hspans.trans (by decide)⟩

end Highlighter
