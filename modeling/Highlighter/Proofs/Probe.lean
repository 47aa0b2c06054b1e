import Highlighter.Proofs.Match

/-!
# Probes that accept

A rule accepts only where its tokens can start, and only a token that is not empty. So the test of
the first character and that of the width never turn down what a probe accepts.

* `of_probe_eq_accept`: what it takes for a rule to accept.
* `match?_eq_some_iff`, `match?_eq_none_iff`: a rule finds a token exactly where its probe accepts.
* `firstMatch?_eq_some_iff`: the first rule that finds a token is the first one that accepts.
-/

namespace Highlighter.Rule

variable {rules : List Rule} {rule : Rule} {previous : Option Char} {text : Text} {n : Nat}

/-! ## One form after the other -/

theorem of_probeQuoted {quote : Char} (h : probeQuoted quote text = .accept n) :
    text.head? = some quote ∧ 0 < n := by
  unfold probeQuoted at h
  split at h
  · cases h
  · split at h
    · rename_i hc
      rw [← Probe.accept.inj h, List.head?_cons, hc]
      exact ⟨rfl, Nat.add_pos_left (by decide) _⟩
    · cases h

theorem of_probeVerbatimString (h : probeVerbatimString previous text = .accept n) :
    text.head? = some '"' ∧ 0 < n := by
  unfold probeVerbatimString at h
  split at h
  · cases h
  split at h
  · cases h
  · split at h
    · rename_i hc
      rw [← Probe.accept.inj h, List.head?_cons, hc]
      exact ⟨rfl, Nat.add_pos_left (by decide) _⟩
    · cases h

theorem of_probeNumber (h : probeNumber previous text = .accept n) :
    text.head?.any isNumeric ∧ 0 < n := by
  unfold probeNumber at h
  dsimp only at h
  split at h
  · rename_i hwidth
    have hpos := of_decide_eq_true (Bool.and_eq_true_iff.mp hwidth).2
    rw [← Probe.accept.inj h]
    refine ⟨?_, hpos⟩
    rcases text with _ | ⟨c, rest⟩
    · exact absurd hpos (Nat.lt_irrefl 0)
    · by_cases hc : isNumeric c
      · exact hc
      · simp [hc] at hpos
  · cases h

/-- A text that begins with a word of a table begins with a character of the table. -/
theorem of_isLongest {words : List Text} {p : Char → Bool}
    (hwords : ∀ word ∈ words, word ≠ [] ∧ ∀ c ∈ word, p c)
    (h : IsLongest words (· <+: text) (some n)) : text.head?.any p ∧ 0 < n := by
  obtain ⟨⟨word, hword, ⟨rest, rfl⟩, rfl⟩, -⟩ := h
  obtain ⟨hne, hall⟩ := hwords word hword
  rcases word with _ | ⟨c, tail⟩
  · exact absurd rfl hne
  · exact ⟨hall c List.mem_cons_self, Nat.succ_pos _⟩

theorem of_probeKeyword (h : probeKeyword previous text = .accept n) :
    text.head?.any Char.isLower ∧ 0 < n := by
  unfold probeKeyword at h
  dsimp only at h
  split at h
  · split at h
    · rename_i hfound
      obtain ⟨m, hm⟩ := Option.isSome_iff_exists.mp (Bool.and_eq_true_iff.mp hfound).1
      have hlongest := longest_keyword text
      rw [hm] at hlongest
      rw [Narrowing.width, hm, Option.getD_some] at h
      rw [← Probe.accept.inj h]
      exact of_isLongest keywords_lower hlongest
    · cases h
  · cases h

theorem of_probeSymbol (h : probeSymbol text = .accept n) : text.head?.any isSymbol ∧ 0 < n := by
  have hprobe : symbol.probe none text = .accept n := h
  rw [probe_symbol] at hprobe
  split at hprobe
  · rename_i m hm
    have hlongest := longest_operator text
    rw [hm] at hlongest
    rw [← Probe.accept.inj hprobe]
    exact of_isLongest operators_symbol hlongest
  · cases hprobe

/-! ## All rules -/

/-- A rule accepts only where its tokens can start, and never an empty one. -/
theorem of_probe_eq_accept (h : rule.probe previous text = .accept n) :
    text.head?.any rule.couldStart ∧ 0 < n := by
  have hhead : ∀ c, text.head? = some c → rule.couldStart c → text.head?.any rule.couldStart := by
    intro c hc hstart
    rw [hc]
    exact hstart
  cases rule with
  | lineComment | blockComment =>
    simp only [probe, probeLineComment, probeBlockComment] at h
    split at h
    · rw [← Probe.accept.inj h]
      exact ⟨rfl, Nat.add_pos_left (by decide) _⟩
    all_goals cases h
  | verbatimString => exact (of_probeVerbatimString h).imp_left (hhead '"' · rfl)
  | quotedString =>
    simp only [probe, probeQuotedString] at h
    split at h
    · cases h
    · exact (of_probeQuoted h).imp_left (hhead '"' · rfl)
  | charLiteral => exact (of_probeQuoted h).imp_left (hhead '\'' · rfl)
  | keyword => exact of_probeKeyword h
  | number => exact of_probeNumber h
  | symbol => exact of_probeSymbol h

/-- A rule finds a token where it accepts. -/
theorem match?_eq_some_iff :
    rule.match? previous text = some n ↔ rule.probe previous text = .accept n := by
  constructor
  · exact fun h => (of_match?_eq_some h).2
  · intro h
    obtain ⟨hstart, hpos⟩ := of_probe_eq_accept h
    exact match?_of_accept hstart h hpos

/-- A rule finds no token where it does not accept. -/
theorem match?_eq_none_iff :
    rule.match? previous text = none ↔ (rule.probe previous text).accepted = false := by
  cases hprobe : rule.probe previous text with
  | accept n => simp [match?_eq_some_iff.mpr hprobe, Probe.accepted]
  | reject read => simp [match?_of_reject read hprobe, Probe.accepted]

/-- The first rule that finds a token is the first one that accepts, and the token ends where that
one stops reading. -/
theorem firstMatch?_eq_some_iff : firstMatch? rules previous text = some (rule, n) ↔
    rules.find? (fun other => (other.probe previous text).accepted) = some rule ∧
      (rule.probe previous text).read = n := by
  induction rules with
  | nil => simp [firstMatch?]
  | cons first rules ih =>
    rw [List.find?_cons]
    cases hprobe : first.probe previous text with
    | accept m =>
      rw [firstMatch?_cons_of_some (match?_eq_some_iff.mpr hprobe), Option.some.injEq,
        Prod.mk.injEq]
      dsimp only [Probe.accepted]
      rw [Option.some.injEq]
      refine and_congr_right fun heq => ?_
      rw [← heq, hprobe, Probe.read]
    | reject read =>
      rw [firstMatch?_cons_of_none (match?_of_reject read hprobe), ih]
      rfl

end Highlighter.Rule
