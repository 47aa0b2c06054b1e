import Highlighter.Proofs.Contention
import Highlighter.Proofs.Cut
import Highlighter.Proofs.Resync

/-!
# Where the tokens of a rule stand

What is needed of a text for a part of it to be a token: no other token goes over its start, and
the first rule that finds one there finds this one.

* `mem_spans_iff`: when a part of a text is a token.
* `exists_covers_of_firstMatch?`: where some rule finds a token, a token is.
* `mem_spans_keyword_iff`: the keywords among the tokens are the words of the table that stand
  free, outside of other tokens.
* `mem_spans_number_iff`: the numbers are the longest runs of digits and points behind a boundary,
  outside of other tokens.
-/

namespace Highlighter

variable {rules : List Rule} {text : Text} {start n : Nat} {rule : Rule}

/-- A part of a text is a token if no token goes over its start and the first rule that finds one
there finds it. -/
theorem mem_spans_iff :
    ⟨start, start + n, rule⟩ ∈ spans rules text ↔
      Rule.firstMatch? rules (text.take start).getLast? (text.drop start) = some (rule, n) ∧
        ∀ span ∈ spans rules text, ¬ span.Crosses start := by
  constructor
  · intro h
    exact ⟨firstMatch?_of_mem_spans h,
      fun span hspan => (tiles_steps rules text).not_crosses hspan h⟩
  · rintro ⟨hfirst, hcross⟩
    have hle : start ≤ text.length := by
      have := Rule.firstMatch?_bounds hfirst
      rw [List.length_drop] at this
      omega
    have hlen : (text.take start).length = start := List.length_take_of_le hle
    have hbefore : ∀ span ∈ spans rules (text.take start ++ text.drop start),
        ¬ span.Crosses (text.take start).length := by
      rwa [List.take_append_drop, hlen]
    have hafter := filter_spans_append hbefore
    rw [List.take_append_drop, hlen, spansFrom_token hfirst] at hafter
    have hmem : ⟨start, start + n, rule⟩ ∈ (spans rules text).filter (start ≤ ·.start) := by
      rw [hafter]
      exact List.mem_cons_self
    exact (List.mem_filter.mp hmem).1

/-- Where a rule finds a token, either that is one, or the offset lies in a token before. -/
theorem exists_covers_of_firstMatch? {i : Nat}
    (h : Rule.firstMatch? rules (text.take i).getLast? (text.drop i) ≠ none) :
    ∃ span ∈ spans rules text, span.Covers i := by
  obtain ⟨⟨rule, n⟩, hfirst⟩ := Option.ne_none_iff_exists'.mp h
  by_cases hcross : ∃ span ∈ spans rules text, span.Crosses i
  · obtain ⟨span, hspan, hstart, hstop⟩ := hcross
    exact ⟨span, hspan, Nat.le_of_lt hstart, hstop⟩
  · have hmem : ⟨i, i + n, rule⟩ ∈ spans rules text :=
      mem_spans_iff.mpr ⟨hfirst, fun span hspan hc => hcross ⟨span, hspan, hc⟩⟩
    exact ⟨_, hmem, Nat.le_refl i, Nat.lt_add_of_pos_right (Rule.firstMatch?_bounds hfirst).1⟩

/-! ## Keywords -/

theorem atBoundary_iff {neighbour : Option Char} :
    atBoundary neighbour ↔ ∀ c ∈ neighbour, Unicode.isWhiteSpace c ∨ isSymbol c := by
  cases neighbour <;> simp [atBoundary, isDelimiter, or_comm]

/-- Where the rule for keywords finds one, so does the first rule, whatever the others are. -/
theorem Rule.firstMatch?_keyword_iff {previous : Option Char} (hrules : keyword ∈ rules) :
    firstMatch? rules previous text = some (keyword, n) ↔
      keyword.match? previous text = some n := by
  constructor
  · exact fun h => (of_firstMatch?_eq_some h).2
  · intro h
    rcases text with _ | ⟨c, rest⟩
    · cases h
    · have hc : c.isLower := (of_match?_eq_some h).1
      rw [firstMatch?_of_head_isLower hc, if_pos hrules, h, Option.map_some]

/-- A keyword at an offset is a word of the table there, between two boundaries. -/
theorem Rule.match?_keyword_drop :
    keyword.match? (text.take start).getLast? (text.drop start) = some n ↔
      start + n ≤ text.length ∧ text.slice start (start + n) ∈ keywords ∧
        atBoundary (text.take start).getLast? ∧ atBoundary text[start + n]? := by
  have hnext : ((text.drop start).drop n).head? = text[start + n]? := by
    rw [List.drop_drop, List.head?_drop]
  rw [match?_keyword, Text.slice_add, ← hnext]
  constructor
  · rintro ⟨hp, word, hword, rest, htext, hrest, rfl⟩
    have hle : word.length ≤ (text.drop start).length := by
      rw [htext, List.length_append]
      exact Nat.le_add_right _ _
    have hpos := List.length_pos_iff.mpr (keywords_lower word hword).1
    rw [List.length_drop] at hle
    rw [htext, List.take_left, List.drop_left]
    exact ⟨by omega, hword, hp, hrest⟩
  · rintro ⟨hle, hword, hp, hrest⟩
    refine ⟨hp, _, hword, _, (List.take_append_drop n _).symm, hrest, ?_⟩
    rw [List.length_take, List.length_drop]
    omega

/-- **The keywords of a text** are the words of the table that stand free in it, outside of other
tokens: white space, a symbol or an end of the text is on both sides of them, and no token goes
over their start. -/
theorem mem_spans_keyword_iff (rules : List Rule) (hrules : .keyword ∈ rules) (text : Text)
    (start stop : Nat) :
    ⟨start, stop, .keyword⟩ ∈ spans rules text ↔
      stop ≤ text.length ∧ text.slice start stop ∈ keywords ∧
        (∀ c ∈ (text.take start).getLast?, Unicode.isWhiteSpace c ∨ isSymbol c) ∧
        (∀ c ∈ text[stop]?, Unicode.isWhiteSpace c ∨ isSymbol c) ∧
        ∀ span ∈ spans rules text, ¬ span.Crosses start := by
  rw [← atBoundary_iff, ← atBoundary_iff]
  rcases Nat.lt_or_ge stop start with hlt | hle
  · -- Nothing lies between offsets that are not in order, and no keyword is empty.
    have hempty : text.slice start stop = [] := by
      rw [Text.slice, Nat.sub_eq_zero_of_le (Nat.le_of_lt hlt), List.take_zero]
    constructor
    · intro h
      have := spansFrom_bounds h
      dsimp only at this
      omega
    · rintro ⟨-, hword, -⟩
      exact absurd hempty (keywords_lower _ hword).1
  · obtain ⟨n, rfl⟩ := Nat.exists_eq_add_of_le hle
    rw [mem_spans_iff, Rule.firstMatch?_keyword_iff hrules, Rule.match?_keyword_drop]
    tauto

/-- A word of the table is a keyword at a bracket and at the end of the text, but not as the start of
a longer word, after an `@` or in a string. -/
theorem mem_spans_keyword_for :
    Rule.keyword ∈ Rule.priority ∧
      ⟨0, 3, .keyword⟩ ∈ spans Rule.priority "for(foreach @in \" do \" double".toList ∧
      ⟨4, 7, .keyword⟩ ∉ spans Rule.priority "for(foreach @in \" do \" double".toList ∧
      ⟨13, 15, .keyword⟩ ∉ spans Rule.priority "for(foreach @in \" do \" double".toList ∧
      ⟨18, 20, .keyword⟩ ∉ spans Rule.priority "for(foreach @in \" do \" double".toList ∧
      ⟨23, 29, .keyword⟩ ∈ spans Rule.priority "for(foreach @in \" do \" double".toList := by
  have hrules : Rule.keyword ∈ Rule.priority := by decide
  have hiff := mem_spans_keyword_iff Rule.priority hrules "for(foreach @in \" do \" double".toList
  simp only [← atBoundary_iff] at hiff
  exact ⟨hrules, (hiff 0 3).mpr (by decide), mt (hiff 4 7).mp (by decide),
    mt (hiff 13 15).mp (by decide), mt (hiff 18 20).mp (by decide), (hiff 23 29).mpr (by decide)⟩

/-! ## Numbers -/

theorem Rule.isNumeric_iff {c : Char} : isNumeric c ↔ c.isDigit ∨ c = '.' := by
  rw [isNumeric, Bool.or_eq_true, decide_eq_true_eq]

/-- How many characters of a kind a text begins with. -/
theorem length_takeWhile_eq_iff {p : Char → Bool} :
    (text.takeWhile p).length = n ↔
      n ≤ text.length ∧ (∀ c ∈ text.take n, p c) ∧ ∀ c ∈ text[n]?, p c = false := by
  induction text generalizing n with
  | nil =>
    rw [List.takeWhile_nil, List.length_nil, Nat.le_zero_eq, eq_comm]
    simp
  | cons c rest ih =>
    by_cases hc : p c <;> rcases n with _ | n <;> simp [hc, ih]

theorem Rule.match?_number_eq_some_iff {previous : Option Char} :
    number.match? previous text = some n ↔
      atBoundary previous ∧ 0 < n ∧ (text.takeWhile isNumeric).length = n := by
  have hhead : text.head?.any isNumeric ↔ 0 < (text.takeWhile isNumeric).length := by
    rcases text with _ | ⟨c, rest⟩
    · simp
    · by_cases hc : isNumeric c <;> simp [hc]
  rw [match?_number]
  split
  · rename_i h
    rw [Option.some.injEq]
    constructor
    · rintro rfl
      exact ⟨h.1, hhead.mp h.2, rfl⟩
    · exact fun hn => hn.2.2
  · rename_i h
    constructor
    · intro hn
      cases hn
    · rintro ⟨hp, hpos, rfl⟩
      exact absurd ⟨hp, hhead.mpr hpos⟩ h

/-- A number at an offset is a run of digits and points behind a boundary, and the longest one. -/
theorem Rule.match?_number_drop :
    number.match? (text.take start).getLast? (text.drop start) = some n ↔
      0 < n ∧ start + n ≤ text.length ∧ (∀ c ∈ text.slice start (start + n), isNumeric c) ∧
        (∀ c ∈ text[start + n]?, isNumeric c = false) ∧ atBoundary (text.take start).getLast? := by
  rw [match?_number_eq_some_iff, length_takeWhile_eq_iff, List.length_drop, List.getElem?_drop,
    Text.slice_add]
  constructor
  · rintro ⟨hp, hpos, hle, hall, hnext⟩
    exact ⟨hpos, by omega, hall, hnext, hp⟩
  · rintro ⟨hpos, hle, hall, hnext, hp⟩
    exact ⟨hp, hpos, by omega, hall, hnext⟩

/-- **The numbers of a text**, for rules that try numbers before operators, are the runs of ASCII
digits and points that begin behind a boundary and go on as far as they can, outside of other
tokens: no token goes over their start. -/
theorem mem_spans_number_iff (rules : List Rule) (hnumber : .number ∈ rules)
    (hbefore : .symbol ∈ rules → rules.idxOf .number < rules.idxOf .symbol) (text : Text)
    (start stop : Nat) :
    ⟨start, stop, .number⟩ ∈ spans rules text ↔
      start < stop ∧ stop ≤ text.length ∧
        (∀ c ∈ text.slice start stop, c.isDigit ∨ c = '.') ∧
        (∀ c ∈ text[stop]?, ¬ (c.isDigit ∨ c = '.')) ∧
        (∀ c ∈ (text.take start).getLast?, Unicode.isWhiteSpace c ∨ isSymbol c) ∧
        ∀ span ∈ spans rules text, ¬ span.Crosses start := by
  simp only [← Rule.isNumeric_iff, Bool.not_eq_true]
  rw [← atBoundary_iff]
  rcases Nat.lt_or_ge stop start with hlt | hle
  · -- No number ends before it begins.
    constructor
    · intro h
      have := spansFrom_bounds h
      dsimp only at this
      omega
    · rintro ⟨hlt', -⟩
      omega
  · obtain ⟨n, rfl⟩ := Nat.exists_eq_add_of_le hle
    rw [mem_spans_iff, Rule.firstMatch?_iff_of_before (by decide) hnumber hbefore,
      Rule.match?_number_drop, Nat.lt_add_right_iff_pos]
    simp only [and_assoc]

/-- After a name a point is an operator, and a number may begin right behind it; a number takes all
points in it, and what follows a point in it is no number. -/
theorem mem_spans_number_points :
    Rule.number ∈ [.keyword, .number, .symbol] ∧
      (Rule.symbol ∈ [.keyword, .number, .symbol] →
        [Rule.keyword, .number, .symbol].idxOf .number <
          [Rule.keyword, .number, .symbol].idxOf .symbol) ∧
      ⟨1, 2, .number⟩ ∉ spans [.keyword, .number, .symbol] "x..5+1.2.3f".toList ∧
      ⟨2, 4, .number⟩ ∈ spans [.keyword, .number, .symbol] "x..5+1.2.3f".toList ∧
      ⟨3, 4, .number⟩ ∉ spans [.keyword, .number, .symbol] "x..5+1.2.3f".toList ∧
      ⟨5, 10, .number⟩ ∈ spans [.keyword, .number, .symbol] "x..5+1.2.3f".toList := by
  have hnumber : Rule.number ∈ [.keyword, .number, .symbol] := by decide
  have hbefore : Rule.symbol ∈ [.keyword, .number, .symbol] →
      [Rule.keyword, .number, .symbol].idxOf .number <
        [Rule.keyword, .number, .symbol].idxOf .symbol := by decide
  have hiff := mem_spans_number_iff [.keyword, .number, .symbol] hnumber hbefore
    "x..5+1.2.3f".toList
  simp only [← atBoundary_iff, ← Rule.isNumeric_iff, ← List.all_eq_true] at hiff
  refine ⟨hnumber, hbefore, fun h => ?_, (hiff 2 4).mpr ?_, fun h => ?_, (hiff 5 10).mpr ?_⟩
  · exact absurd ((hiff 1 2).mp h).2.2.2.2.1 (by decide)
  · exact ⟨by decide, by decide, by decide, by rintro c ⟨⟩; decide, by decide, by decide⟩
  · exact absurd ((hiff 3 4).mp h).2.2.2.2.2 (by decide)
  · exact ⟨by decide, by decide, by decide, by rintro c ⟨⟩; decide, by decide, by decide⟩

end Highlighter
