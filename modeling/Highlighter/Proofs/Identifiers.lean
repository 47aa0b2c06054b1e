import Highlighter.Proofs.Caret
import Highlighter.Proofs.Operators

/-!
# Identifiers

A name outside of literals and comments is found whole: as one keyword or as one word. No token
begins or ends in the middle of it, whatever stands next to it.

* `Rule.admits`, `admits_of_covers`: the characters that keywords, numbers and operators consist of.
* `IsName`: a longest run of word characters that begins with no digit.
* `IsName.not_crosses`, `IsName.eq_keyword`: no token reaches into a name, and the only one in it is
  a keyword that is all of it.
* `IsName.mem_tokens`: so a name is a keyword or a word.
* `tokens_of_name`: it is all that is found there, also at every caret in the name and behind it.
-/

namespace Highlighter

variable {rules : List Rule} {text : Text} {start stop i : Nat} {c : Char}

/-! ## Characters of texts and tokens -/

theorem Text.mem_slice (hi : text[i]? = some c) (hstart : start ≤ i) (hstop : i < stop) :
    c ∈ text.slice start stop := by
  refine List.mem_iff_getElem?.mpr ⟨i - start, ?_⟩
  rw [slice, List.getElem?_take_of_lt (by omega), List.getElem?_drop, Nat.add_sub_cancel' hstart, hi]

theorem Text.getLast?_take_succ (hi : text[i]? = some c) : (text.take (i + 1)).getLast? = some c := by
  rw [List.getLast?_take, if_neg (Nat.succ_ne_zero i), Nat.add_sub_cancel, hi, Option.some_or]

/-- Whether a token of some form can have the character `c` in it. Literals and comments can have
every character. -/
def Rule.admits : Rule → Char → Bool
  | keyword, c => c.isLower
  | number, c => isNumeric c
  | symbol, c => isSymbol c
  | _, _ => true

/-- The characters of a token are such that its form can have them. -/
theorem admits_of_covers {span : Span} (hspan : span ∈ spans rules text) (hi : text[i]? = some c)
    (hcovers : span.Covers i) : span.rule.admits c := by
  obtain ⟨first, last, rule⟩ := span
  obtain ⟨n, -, rfl, hfirst⟩ := width_of_mem_spans hspan
  have hmatch := (Rule.of_firstMatch?_eq_some hfirst).2
  have hmem := Text.mem_slice hi hcovers.1 hcovers.2
  cases rule with
  | keyword => exact (keywords_lower _ (Rule.match?_keyword_drop.mp hmatch).2.1).2 c hmem
  | number => exact (Rule.match?_number_drop.mp hmatch).2.2.1 c hmem
  | symbol => exact (operators_symbol _ (Rule.match?_symbol_drop.mp hmatch).2.1).2 c hmem
  | _ => rfl

/-! ## Names -/

/-- The offsets from `start` up to, but without, `stop` are those of a name: a longest run of word
characters, the first of which is no ASCII digit. -/
structure IsName (text : Text) (start stop : Nat) : Prop where
  run : IsRun (HasWordChar text) start stop
  noDigit : ¬ text[start]?.any Char.isDigit

/-- Behind a word character no token begins with another one. -/
theorem not_mem_spans_in_word {n : Nat} {rule : Rule} (hprevious : HasWordChar text i)
    (hword : HasWordChar text (i + 1)) : ⟨i + 1, i + 1 + n, rule⟩ ∉ spans rules text := by
  intro hspan
  obtain ⟨d, hd, hprevious⟩ := hprevious
  obtain ⟨c, hc, hword⟩ := hword
  have hfirst := firstMatch?_of_mem_spans hspan
  rw [Text.getLast?_take_succ hd, Text.drop_eq_cons hc, Rule.firstMatch?_of_isIdentifier
    (not_atBoundary_of_isIdentifier hprevious) hword] at hfirst
  cases hfirst

namespace IsName

variable (h : IsName text start stop)
include h

/-- A name begins with a word character that is no digit. -/
theorem exists_first : ∃ c, text[start]? = some c ∧ isIdentifier c ∧ ¬ c.isDigit := by
  obtain ⟨c, hi, hc⟩ := h.run.all start (Nat.le_refl _) h.run.lt
  exact ⟨c, hi, hc, fun hdigit => h.noDigit ((Option.any_eq_true _ _).mpr ⟨c, hi, hdigit⟩)⟩

theorem stop_le : stop ≤ text.length := by
  have hlt := h.run.lt
  have := (h.run.all (stop - 1) (by omega) (by omega)).lt_length
  omega

/-- No keyword, number or operator goes over the start of a name. -/
theorem not_crosses (houtside : ∀ span ∈ spans rules text, span.Covers start →
    span.tokenType ∉ [.string, .char, .comment]) :
    ∀ span ∈ spans rules text, ¬ span.Crosses start := by
  rintro ⟨first, last, rule⟩ hspan ⟨hfirst, hlast⟩
  obtain ⟨c, hi, hc, hdigit⟩ := h.exists_first
  have hcovers : Span.Covers ⟨first, last, rule⟩ start := ⟨Nat.le_of_lt hfirst, hlast⟩
  have htype : rule.tokenType ∉ [.string, .char, .comment] := houtside _ hspan hcovers
  have hadmits := admits_of_covers hspan hi hcovers
  cases rule with
  | keyword =>
    -- The character before the name is one of the keyword, too.
    obtain ⟨i, rfl⟩ : ∃ i, start = i + 1 := ⟨start - 1, by dsimp only at hfirst; omega⟩
    have hlt : i < text.length := Nat.lt_of_succ_lt (Nat.lt_of_lt_of_le h.run.lt h.stop_le)
    have hprevious : Rule.keyword.admits text[i] :=
      admits_of_covers hspan (List.getElem?_eq_getElem hlt)
        ⟨Nat.le_of_lt_succ hfirst, Nat.lt_of_succ_lt hlast⟩
    exact h.run.left i rfl ⟨_, List.getElem?_eq_getElem hlt, isIdentifier_of_isLower hprevious⟩
  | number =>
    obtain rfl : c = '.' :=
      of_decide_eq_true ((Bool.or_eq_true_iff.mp hadmits).resolve_left hdigit)
    exact absurd hc (by decide)
  | symbol =>
    rw [Rule.admits, not_isSymbol_of_isIdentifier hc] at hadmits
    cases hadmits
  | lineComment | blockComment | verbatimString | quotedString | charLiteral =>
    exact htype (by decide)

/-- A token that begins where a name does is a keyword. -/
theorem rule_of_begins {n : Nat} {rule : Rule}
    (hspan : ⟨start, start + n, rule⟩ ∈ spans rules text) : rule = .keyword := by
  obtain ⟨c, hi, hc, hdigit⟩ := h.exists_first
  have hmatch := (Rule.of_firstMatch?_eq_some (firstMatch?_of_mem_spans hspan)).2
  have hstart := (Rule.of_match?_eq_some hmatch).1
  rw [Text.drop_eq_cons hi] at hstart
  exact (Rule.couldStart_of_isIdentifier hc hstart).resolve_right fun hnumber =>
    hdigit hnumber.2

/-- A keyword that begins where a name does ends where it does. -/
theorem stop_of_keyword {n : Nat} (hspan : ⟨start, start + n, .keyword⟩ ∈ spans rules text) :
    start + n = stop := by
  have hmatch := (Rule.of_firstMatch?_eq_some (firstMatch?_of_mem_spans hspan)).2
  obtain ⟨hle, -, -, hnext⟩ := Rule.match?_keyword_drop.mp hmatch
  rcases Nat.lt_trichotomy (start + n) stop with hlt | heq | hgt
  · obtain ⟨c, hi, hc⟩ := h.run.all (start + n) (Nat.le_add_right _ _) hlt
    rw [hi, not_atBoundary_of_isIdentifier hc] at hnext
    cases hnext
  · exact heq
  · have hi : text[stop]? = some text[stop] := List.getElem?_eq_getElem (by omega)
    have hlower : Rule.keyword.admits text[stop] :=
      admits_of_covers hspan hi ⟨Nat.le_of_lt h.run.lt, hgt⟩
    exact absurd ⟨_, hi, isIdentifier_of_isLower hlower⟩ h.run.right

/-- The only token that has characters of a name is a keyword that is all of it. -/
theorem eq_keyword (hcross : ∀ span ∈ spans rules text, ¬ span.Crosses start) {span : Span}
    (hspan : span ∈ spans rules text) (hbefore : span.start < stop) (hbehind : start < span.stop) :
    span = ⟨start, stop, .keyword⟩ := by
  obtain ⟨first, last, rule⟩ := span
  dsimp only at hbefore hbehind
  obtain ⟨n, -, rfl, -⟩ := width_of_mem_spans hspan
  rcases Nat.lt_trichotomy first start with hlt | rfl | hgt
  · exact absurd ⟨hlt, hbehind⟩ (hcross _ hspan)
  · obtain rfl := h.rule_of_begins hspan
    rw [h.stop_of_keyword hspan]
  · obtain ⟨i, rfl⟩ : ∃ i, first = i + 1 := ⟨first - 1, by omega⟩
    have hprevious := h.run.all i (Nat.le_of_lt_succ hgt) (Nat.lt_of_succ_lt hbefore)
    have hword := h.run.all (i + 1) (Nat.le_of_lt hgt) hbefore
    exact absurd hspan (not_mem_spans_in_word hprevious hword)

/-- A name is a keyword, if it is one of the table and stands free, and a word otherwise. -/
theorem mem_tokens (hrules : .keyword ∈ rules)
    (hcross : ∀ span ∈ spans rules text, ¬ span.Crosses start) :
    ∃ rule, (rule = some .keyword ∧ text.slice start stop ∈ keywords ∧
          atBoundary (text.take start).getLast? ∧ atBoundary text[stop]? ∨
        rule = none ∧ ¬ (text.slice start stop ∈ keywords ∧
          atBoundary (text.take start).getLast? ∧ atBoundary text[stop]?)) ∧
      ⟨start, stop, rule⟩ ∈ tokens rules text := by
  obtain ⟨n, rfl⟩ := Nat.exists_eq_add_of_le (Nat.le_of_lt h.run.lt)
  have hspan_iff : ⟨start, start + n, .keyword⟩ ∈ spans rules text ↔
      text.slice start (start + n) ∈ keywords ∧
        atBoundary (text.take start).getLast? ∧ atBoundary text[start + n]? := by
    rw [mem_spans_iff, Rule.firstMatch?_keyword_iff hrules, Rule.match?_keyword_drop]
    exact ⟨fun hspan => hspan.1.2, fun hfree => ⟨⟨h.stop_le, hfree⟩, hcross⟩⟩
  rw [← hspan_iff]
  by_cases hspan : ⟨start, start + n, .keyword⟩ ∈ spans rules text
  · exact ⟨some .keyword, .inl ⟨rfl, hspan⟩, mem_tokens_some.mpr hspan⟩
  · refine ⟨none, .inr ⟨rfl, hspan⟩, mem_tokens_none.mpr ⟨h.run.lt, fun i hi hi' => ?_,
      fun i hi hword => h.run.left i hi hword.1, fun hword => h.run.right hword.1⟩⟩
    refine ⟨h.run.all i hi hi', fun span hmem hcovers => hspan ?_⟩
    rwa [h.eq_keyword hcross hmem (Nat.lt_of_le_of_lt hcovers.1 hi')
      (Nat.lt_of_le_of_lt hi hcovers.2)] at hmem

end IsName

/-! ## What is found at a name -/

/-- Whether a token or word has a character between two offsets. -/
def Token.Meets (token : Token) (start stop : Nat) : Prop :=
  token.start < stop ∧ start < token.stop

instance (token : Token) (start stop : Nat) : Decidable (token.Meets start stop) :=
  inferInstanceAs (Decidable (_ ∧ _))

/-- Of all tokens and words, only one itself has a character between its ends. -/
theorem filter_meets_of_mem {token : Token} (hmem : token ∈ tokens rules text) :
    (tokens rules text).filter (·.Meets token.start token.stop) = [token] := by
  have htiles := tiles_steps rules text
  have hnodup : (tokens rules text).Nodup := by
    refine htiles.pairwise_tokensOf.imp_of_mem fun ha _ hle heq => ?_
    have := (htiles.tokensOf_bounds ha).2.1
    rw [← heq] at hle
    omega
  refine List.perm_singleton.mp ((List.perm_ext_iff_of_nodup (hnodup.filter _)
    (List.pairwise_singleton _ token)).mpr fun other => ?_)
  rw [List.mem_filter, decide_eq_true_eq, List.mem_singleton]
  constructor
  · rintro ⟨hother, hstop, hstart⟩
    -- The later one of the two starts lies in both.
    have hlt := (htiles.tokensOf_bounds hmem).2.1
    have hlt' := (htiles.tokensOf_bounds hother).2.1
    exact htiles.eq_of_covers (i := max token.start other.start) hother hmem
      ⟨by omega, by omega⟩ ⟨by omega, by omega⟩
  · rintro rfl
    exact ⟨hmem, (htiles.tokensOf_bounds hmem).2.1, (htiles.tokensOf_bounds hmem).2.1⟩

/-- **A name is found whole.** Where a name begins outside of literals and comments, one token or
word is all that has characters of it: a keyword if the name is one of the table and white space,
symbols or the ends of the text are on both sides of it, and a word otherwise, and either has the
name's own offsets. A caret in the name or right behind it finds it. -/
theorem tokens_of_name (text : Text) (start stop : Nat) (hname : IsName text start stop)
    (houtside : ∀ span ∈ spans Rule.priority text, span.Covers start →
      span.tokenType ∉ [.string, .char, .comment]) :
    ∃ rule, (rule = some .keyword ∧ text.slice start stop ∈ keywords ∧
          (∀ c ∈ (text.take start).getLast?, Unicode.isWhiteSpace c ∨ isSymbol c) ∧
          (∀ c ∈ text[stop]?, Unicode.isWhiteSpace c ∨ isSymbol c) ∨
        rule = none ∧ ¬ (text.slice start stop ∈ keywords ∧
          (∀ c ∈ (text.take start).getLast?, Unicode.isWhiteSpace c ∨ isSymbol c) ∧
          (∀ c ∈ text[stop]?, Unicode.isWhiteSpace c ∨ isSymbol c))) ∧
      (tokens Rule.priority text).filter (·.Meets start stop) = [⟨start, stop, rule⟩] ∧
      ∀ caret, start < caret → caret ≤ stop →
        tokenAt Rule.priority text caret = some ⟨start, stop, rule⟩ := by
  rw [← atBoundary_iff, ← atBoundary_iff]
  obtain ⟨rule, hrule, hmem⟩ := hname.mem_tokens (by decide) (hname.not_crosses houtside)
  refine ⟨rule, hrule, filter_meets_of_mem hmem, fun caret hstart hstop => ?_⟩
  obtain ⟨i, rfl⟩ : ∃ i, caret = i + 1 := ⟨caret - 1, by omega⟩
  exact tokenAt_of_before
    (hasToken_iff.mpr ⟨hmem, Nat.le_of_lt_succ hstart, Nat.lt_of_succ_le hstop⟩)

/-- A name with letters beyond ASCII, a word of the table behind an `@`, one by itself, and a name that
only ends in one, right behind a string. -/
theorem tokens_of_name_if :
    (tokens Rule.priority "größe+@if if \"s\"xif".toList).filter (·.Meets 0 5) = [⟨0, 5, none⟩] ∧
      tokenAt Rule.priority "größe+@if if \"s\"xif".toList 3 = some ⟨0, 5, none⟩ ∧
      (tokens Rule.priority "größe+@if if \"s\"xif".toList).filter (·.Meets 7 9) = [⟨7, 9, none⟩] ∧
      (tokens Rule.priority "größe+@if if \"s\"xif".toList).filter (·.Meets 10 12) =
        [⟨10, 12, some .keyword⟩] ∧
      tokenAt Rule.priority "größe+@if if \"s\"xif".toList 19 = some ⟨16, 19, none⟩ := by
  have hname := tokens_of_name "größe+@if if \"s\"xif".toList
  obtain ⟨_, ⟨-, hlong, -⟩ | ⟨rfl, -⟩, hlong_filter, hlong_caret⟩ :=
    hname 0 5 ⟨by decide, by decide⟩ (by decide)
  · exact absurd hlong (by decide)
  obtain ⟨_, ⟨-, -, hat, -⟩ | ⟨rfl, -⟩, hat_filter, -⟩ :=
    hname 7 9 ⟨by decide, by decide⟩ (by decide)
  · exact absurd (hat '@' rfl) (by decide)
  obtain ⟨_, ⟨rfl, -⟩ | ⟨-, hfree⟩, hfree_filter, -⟩ :=
    hname 10 12 ⟨by decide, by decide⟩ (by decide)
  swap
  · exact absurd ⟨by decide, atBoundary_iff.mp (by decide), atBoundary_iff.mp (by decide)⟩ hfree
  obtain ⟨_, ⟨-, hlast, -⟩ | ⟨rfl, -⟩, -, hlast_caret⟩ :=
    hname 16 19 ⟨by decide, by decide⟩ (by decide)
  · exact absurd hlast (by decide)
  exact ⟨hlong_filter, hlong_caret 3 (by decide) (by decide), hat_filter, hfree_filter,
    hlast_caret 19 (by decide) (by decide)⟩

end Highlighter
