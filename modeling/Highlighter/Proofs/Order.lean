import Mathlib.Data.List.Basic
import Highlighter.Proofs.Contention
import Highlighter.Proofs.Scan

/-!
# The order of the rules

Two lists of the same rules differ in what they find only if a rule that contends with the one for
operators comes before it in one list and after it in the other.

* `SameOrder`: all contenders come on the same side of the rule for operators in both lists.
* `firstMatch?_of_sameOrder`: then the first rule finds the same token everywhere.
* `firstMatch?_of_contest`: where two rules contend, the one that comes first wins.
* `spans_eq_iff_sameOrder`: two lists find the same tokens in all texts exactly if that holds.
-/

namespace Highlighter

open Rule

/-- Each rule of the first list that contends with the one for operators comes before it in both
lists or in none. -/
def SameOrder (first second : List Rule) : Prop :=
  symbol ∈ first → ∀ rule ∈ contenders, rule ∈ first →
    (first.idxOf rule < first.idxOf symbol ↔ second.idxOf rule < second.idxOf symbol)

instance (first second : List Rule) : Decidable (SameOrder first second) :=
  inferInstanceAs (Decidable (_ → ∀ _ ∈ contenders, _ → _))

variable {first second rules : List Rule} {previous : Option Char} {text : Text} {m n : Nat}

theorem SameOrder.symm (hmem : ∀ rule, rule ∈ first ↔ rule ∈ second)
    (h : SameOrder first second) : SameOrder second first := by
  intro hsymbol rule hrule hsecond
  exact (h ((hmem symbol).mpr hsymbol) rule hrule ((hmem rule).mpr hsecond)).symm

/-! ## Orders that cannot be told apart -/

/-- Where one list finds an operator, so does the other. -/
theorem SameOrder.eq_symbol {rule : Rule} (h : SameOrder first second)
    (hmem : ∀ rule, rule ∈ first ↔ rule ∈ second)
    (hfirst : firstMatch? first previous text = some (symbol, m))
    (hsecond : firstMatch? second previous text = some (rule, n)) : rule = symbol := by
  apply Classical.byContradiction
  intro hrule
  obtain ⟨hsymbol, hm⟩ := of_firstMatch?_eq_some hfirst
  obtain ⟨hrule_mem, hn⟩ := of_firstMatch?_eq_some hsecond
  have hhead := isSome_match?_symbol.mp (Option.isSome_iff_exists.mpr ⟨m, hm⟩)
  have hiff := h hsymbol rule (mem_contenders_of_match? hrule hn hhead) ((hmem rule).mpr hrule_mem)
  have hle : first.idxOf symbol ≤ first.idxOf rule := idxOf_le_of_firstMatch? hfirst hn
  have hle' : second.idxOf rule ≤ second.idxOf symbol := idxOf_le_of_firstMatch? hsecond hm
  have hne : second.idxOf rule ≠ second.idxOf symbol :=
    fun heq => hrule ((List.idxOf_inj hrule_mem).mp heq)
  omega

theorem firstMatch?_of_sameOrder (hmem : ∀ rule, rule ∈ first ↔ rule ∈ second)
    (h : SameOrder first second) (previous : Option Char) (text : Text) :
    firstMatch? first previous text = firstMatch? second previous text := by
  cases hfirst : firstMatch? first previous text with
  | none =>
    have hnone := firstMatch?_eq_none_iff.mp hfirst
    exact (firstMatch?_eq_none_iff.mpr fun rule hrule => hnone rule ((hmem rule).mpr hrule)).symm
  | some found =>
    obtain ⟨a, m⟩ := found
    obtain ⟨ha, hm⟩ := of_firstMatch?_eq_some hfirst
    cases hsecond : firstMatch? second previous text with
    | none =>
      rw [firstMatch?_eq_none_iff.mp hsecond a ((hmem a).mp ha)] at hm
      cases hm
    | some found =>
      obtain ⟨b, n⟩ := found
      have hn := (of_firstMatch?_eq_some hsecond).2
      have hab : a = b := by
        by_cases hsymbol : a = symbol
        · subst hsymbol
          exact (h.eq_symbol hmem hfirst hsecond).symm
        by_cases hsymbol' : b = symbol
        · subst hsymbol'
          exact (h.symm hmem).eq_symbol (fun rule => (hmem rule).symm) hsecond hfirst
        exact eq_of_match? hsymbol hsymbol' hm hn
      subst hab
      rw [Option.some.inj (hm.symm.trans hn)]

theorem stepsFrom_of_firstMatch? (h : ∀ previous text,
    firstMatch? first previous text = firstMatch? second previous text)
    (previous : Option Char) (position : Nat) (text : Text) :
    stepsFrom first previous position 0 text = stepsFrom second previous position 0 text := by
  induction previous, position, text using scan_induction first with
  | nil => rfl
  | plain previous position c rest hfirst ih =>
    have hsecond := (h previous (c :: rest)).symm.trans hfirst
    rw [stepsFrom_plain hfirst, stepsFrom_plain hsecond, ih]
  | token previous position text rule n hfirst ih =>
    have hsecond := (h previous text).symm.trans hfirst
    rw [stepsFrom_token hfirst, stepsFrom_token hsecond, ih]

/-! ## Orders that can be told apart -/

/-- Where a rule contends with the one for operators, the one that comes first wins. -/
theorem firstMatch?_of_contest {rule : Rule} (hrule : rule ≠ symbol) (hmem : rule ∈ rules)
    (hm : rule.match? previous text = some m) (hn : symbol.match? previous text = some n) :
    ∃ width, firstMatch? rules previous text =
      some (if rules.idxOf rule < rules.idxOf symbol then rule else symbol, width) := by
  cases hfirst : firstMatch? rules previous text with
  | none =>
    rw [firstMatch?_eq_none_iff.mp hfirst rule hmem] at hm
    cases hm
  | some found =>
    obtain ⟨winner, width⟩ := found
    refine ⟨width, ?_⟩
    by_cases hwinner : winner = symbol
    · subst hwinner
      have := idxOf_le_of_firstMatch? hfirst hm
      rw [if_neg (by omega)]
    · obtain rfl := eq_of_match? hwinner hrule (of_firstMatch?_eq_some hfirst).2 hm
      have := idxOf_le_of_firstMatch? hfirst hn
      have hne : rules.idxOf winner ≠ rules.idxOf symbol :=
        fun heq => hrule ((List.idxOf_inj hmem).mp heq)
      rw [if_pos (by omega)]

/-- For each contender there is a text at whose start both it and the rule for operators find a
token. -/
theorem exists_contest : ∀ rule ∈ contenders, rule ≠ symbol ∧
    ∃ text m n, rule.match? none text = some m ∧ symbol.match? none text = some n := by
  intro rule hrule
  simp only [contenders, List.mem_cons, List.not_mem_nil, or_false] at hrule
  rcases hrule with rfl | rfl | rfl
  · exact ⟨by decide, "//".toList, 2, 1, by decide, by decide⟩
  · exact ⟨by decide, "/*".toList, 2, 1, by decide, by decide⟩
  · exact ⟨by decide, ".".toList, 1, 1, by decide, by decide⟩

theorem sameOrder_of_spans (hmem : ∀ rule, rule ∈ first ↔ rule ∈ second)
    (h : ∀ text, spans first text = spans second text) : SameOrder first second := by
  intro _ rule hrule hfirst
  obtain ⟨hne, text, m, n, hm, hn⟩ := exists_contest rule hrule
  obtain ⟨width, hwinner⟩ := firstMatch?_of_contest hne hfirst hm hn
  obtain ⟨width', hwinner'⟩ := firstMatch?_of_contest hne ((hmem rule).mp hfirst) hm hn
  have hspans := h text
  rw [spans_eq_spansFrom, spans_eq_spansFrom, spansFrom_token hwinner,
    spansFrom_token hwinner'] at hspans
  have hsame := (Span.mk.inj (List.cons.inj hspans).1).2.2
  by_cases hbefore : first.idxOf rule < first.idxOf symbol <;>
    by_cases hbefore' : second.idxOf rule < second.idxOf symbol
  · exact iff_of_true hbefore hbefore'
  · rw [if_pos hbefore, if_neg hbefore'] at hsame
    exact absurd hsame hne
  · rw [if_neg hbefore, if_pos hbefore'] at hsame
    exact absurd hsame.symm hne
  · exact iff_of_false hbefore hbefore'

/-- **What the order of the rules means.** Two lists of the same rules find the same tokens in all
texts exactly if each contender comes on the same side of the rule for operators in both; and then
their scans are the same, step by step. -/
theorem spans_eq_iff_sameOrder (first second : List Rule)
    (hmem : ∀ rule, rule ∈ first ↔ rule ∈ second) :
    ((∀ text, spans first text = spans second text) ↔ SameOrder first second) ∧
      (SameOrder first second → ∀ text, steps first text = steps second text) := by
  have hsteps : SameOrder first second → ∀ text, steps first text = steps second text :=
    fun h text => stepsFrom_of_firstMatch? (firstMatch?_of_sameOrder hmem h) none 0 text
  refine ⟨⟨sameOrder_of_spans hmem, fun h text => ?_⟩, hsteps⟩
  rw [spans, spans, hsteps h text]

/-- Comments may be tried before or after strings, and a rule may be tried twice, but comments must
not change sides with operators. -/
theorem spans_eq_of_reordered :
    (∀ rule, rule ∈ [symbol, quotedString, lineComment, keyword, symbol] ↔
        rule ∈ [keyword, symbol, lineComment, quotedString]) ∧
      (∀ text, spans [symbol, quotedString, lineComment, keyword, symbol] text =
        spans [keyword, symbol, lineComment, quotedString] text) ∧
      (∀ rule, rule ∈ [lineComment, symbol] ↔ rule ∈ [symbol, lineComment]) ∧
      ¬ ∀ text, spans [lineComment, symbol] text = spans [symbol, lineComment] text := by
  have hmem : ∀ rule, rule ∈ [symbol, quotedString, lineComment, keyword, symbol] ↔
      rule ∈ [keyword, symbol, lineComment, quotedString] := by
    intro rule
    cases rule <;> decide
  have hmem' : ∀ rule, rule ∈ [lineComment, symbol] ↔ rule ∈ [symbol, lineComment] := by
    intro rule
    cases rule <;> decide
  have hsame := (spans_eq_iff_sameOrder _ _ hmem).1.mpr (by decide)
  have hother : ¬ ∀ text, spans [lineComment, symbol] text = spans [symbol, lineComment] text :=
    fun h => absurd ((spans_eq_iff_sameOrder _ _ hmem').1.mp h) (by decide)
  exact ⟨hmem, hsame, hmem', hother⟩

end Highlighter
