import Highlighter.Proofs.Cut
import Highlighter.Proofs.Operators

/-!
# Tokens as texts of their own

A token that is taken out of its text is a token again. Neither the end of the text behind it nor
the missing character before it makes another one of it, with two exceptions: a verbatim string
needs its `@`, and a point that stands alone is a number.

* `Rule.match?_excerpt`: the rule of a token finds it in its own characters.
* `Rule.match?_at_start`: it finds it at the start of a text as behind other characters.
* `Rule.firstMatch?_excerpt`: no other rule finds a token there first.
* `spans_excerpt`: the tokens of a token.
-/

namespace Highlighter

namespace Rule

variable {rule : Rule} {previous : Option Char} {text : Text} {n : Nat}

/-! ## One rule -/

/-- A rule finds a token in the characters of the token. -/
theorem match?_excerpt (h : rule.match? previous text = some n) :
    rule.match? previous (text.take n) = some n := by
  by_cases hrule : rule = keyword
  · subst hrule
    obtain ⟨hprevious, word, hword, rest, rfl, -, rfl⟩ := (match?_keyword previous text).mp h
    rw [List.take_left]
    exact (match?_keyword previous word).mpr
      ⟨hprevious, word, hword, [], (List.append_nil word).symm, rfl, rfl⟩
  · rw [match?_take hrule (openerLength_le_of_match? h), h, Option.map_some, Nat.min_self]

/-- What a rule finds behind some character it also finds at the start of a text, unless it asks
for that character. -/
theorem match?_at_start (hrule : rule ≠ verbatimString) (h : rule.match? previous text = some n) :
    rule.match? none text = some n := by
  cases rule with
  | lineComment => rwa [match?_lineComment] at h ⊢
  | blockComment => rwa [match?_blockComment] at h ⊢
  | charLiteral => rwa [match?_charLiteral] at h ⊢
  | symbol => rwa [match?_symbol_eq_some_iff] at h ⊢
  | verbatimString => exact absurd rfl hrule
  | quotedString =>
    rw [match?_quotedString] at h ⊢
    split at h
    · rename_i hquote
      rwa [if_pos ⟨hquote.1, nofun⟩]
    · cases h
  | keyword =>
    rw [match?_keyword] at h ⊢
    exact ⟨rfl, h.2⟩
  | number =>
    rw [match?_number] at h ⊢
    split at h
    · rename_i hnumeric
      rwa [if_pos ⟨rfl, hnumeric.2⟩]
    · cases h

/-- Only behind an `@` is a verbatim string found. -/
theorem previous_of_match?_verbatimString (h : verbatimString.match? previous text = some n) :
    previous = some '@' := by
  rw [match?_verbatimString] at h
  split at h
  · rename_i hquote
    exact hquote.2
  · cases h

/-- No operator begins with the opener of a comment, and only one begins with a point. -/
theorem operators_not_contended :
    ∀ word ∈ operators, ¬ ['/', '/'] <+: word ∧ ¬ ['/', '*'] <+: word ∧
      (word.head? = some '.' → word = ['.']) := by
  decide

/-! ## The first of several rules -/

/-- In the order of priority, the rule of a token is the first to find it in its own characters,
unless these are a single point. -/
theorem firstMatch?_excerpt (hrule : rule ≠ verbatimString)
    (h : firstMatch? priority previous text = some (rule, n))
    (hpoint : ¬ (rule = symbol ∧ text.take n = ['.'])) :
    firstMatch? priority none (text.take n) = some (rule, n) := by
  have hmatch := match?_at_start hrule (match?_excerpt (of_firstMatch?_eq_some h).2)
  by_cases hsymbol : rule = symbol
  · subst hsymbol
    obtain ⟨⟨word, hword, hpre, hlen⟩, -⟩ := match?_symbol_eq_some_iff.mp hmatch
    have heq : word = text.take n := hpre.eq_of_length_le (by
      rw [hlen]
      exact List.length_take_le n text)
    subst heq
    obtain ⟨hline, hblock, hhead⟩ := operators_not_contended _ hword
    exact firstMatch?_priority_symbol_iff.mpr
      ⟨hmatch, hline, hblock, fun hdot => hpoint ⟨rfl, hhead hdot.1⟩⟩
  · exact (firstMatch?_priority_iff hsymbol).mpr hmatch

/-- No token begins with an `@`. -/
theorem firstMatch?_at (rules : List Rule) (previous : Option Char) (rest : Text) :
    firstMatch? rules previous ('@' :: rest) = none := by
  refine firstMatch?_eq_none_iff.mpr fun rule _ => match?_cons_of_not_couldStart ?_ rest
  cases rule <;> decide

end Rule

/-! ## A whole text -/

/-- What is found in all of a text is the only token of it. -/
theorem spansFrom_eq_singleton {rules : List Rule} {previous : Option Char} {position : Nat}
    {word : Text} {rule : Rule}
    (h : Rule.firstMatch? rules previous word = some (rule, word.length)) :
    spansFrom rules previous position word = [⟨position, position + word.length, rule⟩] := by
  rw [spansFrom_token h, List.drop_length, spansFrom_nil]

/-- **Tokens are self-contained.** A token by itself has one token, which is that token again. A
verbatim string is one behind its `@`, and a point that was an operator is a number. -/
theorem spans_excerpt (text : Text) :
    ∀ span ∈ spans Rule.priority text,
      (span.rule = .verbatimString →
        spans Rule.priority ('@' :: text.slice span.start span.stop) =
          [⟨1, 1 + (text.slice span.start span.stop).length, .verbatimString⟩]) ∧
      (span.rule = .symbol → text.slice span.start span.stop = ['.'] →
        spans Rule.priority (text.slice span.start span.stop) = [⟨0, 1, .number⟩]) ∧
      (span.rule ≠ .verbatimString →
        ¬ (span.rule = .symbol ∧ text.slice span.start span.stop = ['.']) →
          spans Rule.priority (text.slice span.start span.stop) =
            [⟨0, (text.slice span.start span.stop).length, span.rule⟩]) := by
  intro span hspan
  obtain ⟨start, stop, rule⟩ := span
  obtain ⟨n, -, rfl, hfirst⟩ := width_of_mem_spans hspan
  have hlen : ((text.drop start).take n).length = n :=
    List.length_take_of_le (Rule.firstMatch?_bounds hfirst).2
  dsimp only
  rw [Text.slice_add]
  refine ⟨?_, fun _ hpoint => ?_, fun hverbatim hpoint => ?_⟩
  · rintro rfl
    have hmatch := Rule.match?_excerpt (Rule.of_firstMatch?_eq_some hfirst).2
    have hword := (Rule.firstMatch?_priority_iff (by decide)).mpr hmatch
    rw [Rule.previous_of_match?_verbatimString hmatch] at hword
    rw [spans_eq_spansFrom, spansFrom_plain (Rule.firstMatch?_at _ _ _),
      spansFrom_eq_singleton (by rwa [hlen])]
  · rw [hpoint]
    decide
  · have hword := Rule.firstMatch?_excerpt hverbatim hfirst hpoint
    rw [spans_eq_spansFrom, spansFrom_eq_singleton (by rwa [hlen]), Nat.zero_add]

/-- A verbatim string behind its `@`, a point between two names, and a keyword before a bracket. -/
theorem spans_excerpt_of_call :
    spans Rule.priority "x.y @\"a\\\" if(".toList =
        [⟨1, 2, .symbol⟩, ⟨5, 9, .verbatimString⟩, ⟨10, 12, .keyword⟩, ⟨12, 13, .symbol⟩] ∧
      spans Rule.priority "@\"a\\\"".toList = [⟨1, 5, .verbatimString⟩] ∧
      spans Rule.priority ".".toList = [⟨0, 1, .number⟩] ∧
      spans Rule.priority "if".toList = [⟨0, 2, .keyword⟩] := by
  have hspans : spans Rule.priority "x.y @\"a\\\" if(".toList =
      [⟨1, 2, .symbol⟩, ⟨5, 9, .verbatimString⟩, ⟨10, 12, .keyword⟩, ⟨12, 13, .symbol⟩] := by
    decide
  have hexcerpt := spans_excerpt "x.y @\"a\\\" if(".toList
  rw [hspans] at hexcerpt
  obtain ⟨hverbatim, -, -⟩ := hexcerpt ⟨5, 9, .verbatimString⟩ (by decide)
  obtain ⟨-, hpoint, -⟩ := hexcerpt ⟨1, 2, .symbol⟩ (by decide)
  obtain ⟨-, -, hkeyword⟩ := hexcerpt ⟨10, 12, .keyword⟩ (by decide)
  exact ⟨hspans, hverbatim rfl, hpoint rfl rfl, hkeyword (by decide) (by decide)⟩

end Highlighter
