import Highlighter.Proofs.Lexicon
import Highlighter.Rule.Probe

/-!
# What each rule matches

For every rule the texts in which it finds a token, and the width of the token.

* `match?_lineComment`, …, `match?_number`: how a token opens, and how far it goes on.
* `match?_keyword`: a keyword is a word of the table between two boundaries.
* `match?_symbol`: an operator is the longest one that the text begins with.
* `match?_of_isNewline`, `match?_of_isIdentifier`: nothing is found at the end of a line and in the
  middle of a word.
* `match?_congr`: a rule sees of the character behind only whether it is a boundary or an `@`.
-/

namespace Highlighter.Rule

variable (previous : Option Char) (text : Text)

/-! ## From probes to matches -/

@[simp] theorem match?_nil (rule : Rule) : rule.match? previous [] = none := rfl

variable {previous text}

theorem match?_of_not_couldStart {rule : Rule} (h : text.head?.any rule.couldStart = false) :
    rule.match? previous text = none := by
  simp [match?, h]

theorem match?_cons_of_not_couldStart {rule : Rule} {c : Char} (h : rule.couldStart c = false)
    (rest : Text) : rule.match? previous (c :: rest) = none :=
  match?_of_not_couldStart h

theorem match?_of_reject {rule : Rule} (read : Nat) (h : rule.probe previous text = .reject read) :
    rule.match? previous text = none := by
  simp [match?, h, Probe.width?]

theorem match?_of_accept {rule : Rule} {n : Nat} (hstart : text.head?.any rule.couldStart)
    (hprobe : rule.probe previous text = .accept n) (hn : 0 < n) :
    rule.match? previous text = some n := by
  simp [match?, hstart, hprobe, Probe.width?, Option.filter, hn]

/-- A token is found only by a rule that the first character allows and that accepts. -/
theorem of_match?_eq_some {rule : Rule} {n : Nat} (h : rule.match? previous text = some n) :
    text.head?.any rule.couldStart ∧ rule.probe previous text = .accept n := by
  by_cases hstart : text.head?.any rule.couldStart
  · refine ⟨hstart, ?_⟩
    cases hprobe : rule.probe previous text with
    | accept m =>
      simp only [match?, hstart, if_true, hprobe, Probe.width?, Option.filter_eq_some_iff] at h
      rw [Option.some.inj h.1]
    | reject read =>
      rw [match?_of_reject _ hprobe] at h
      cases h
  · rw [match?_of_not_couldStart (by simpa using hstart)] at h
    cases h

variable (previous text)

/-! ## Comments -/

theorem match?_lineComment :
    lineComment.match? previous text =
      if ['/', '/'] <+: text then some (2 + ((text.drop 2).takeWhile (!isNewline ·)).length)
      else none := by
  rcases text with _ | ⟨a, rest⟩
  · rfl
  by_cases ha : a = '/'
  · subst ha
    rcases rest with _ | ⟨b, rest⟩
    · exact match?_of_reject _ rfl
    by_cases hb : b = '/'
    · subst hb
      rw [if_pos ⟨rest, rfl⟩]
      exact match?_of_accept rfl rfl (Nat.add_pos_left (by decide) _)
    · rw [if_neg (by simp [eq_comm, hb])]
      exact match?_of_reject 2 (by simp [probe, probeLineComment])
  · rw [if_neg (by simp [eq_comm, ha])]
    exact match?_of_not_couldStart (by simp [couldStart, ha])

theorem match?_blockComment :
    blockComment.match? previous text =
      if ['/', '*'] <+: text then some (2 + blockWidth (text.drop 2)) else none := by
  rcases text with _ | ⟨a, rest⟩
  · rfl
  by_cases ha : a = '/'
  · subst ha
    rcases rest with _ | ⟨b, rest⟩
    · exact match?_of_reject _ rfl
    by_cases hb : b = '*'
    · subst hb
      rw [if_pos ⟨rest, rfl⟩]
      exact match?_of_accept rfl rfl (Nat.add_pos_left (by decide) _)
    · rw [if_neg (by simp [eq_comm, hb])]
      exact match?_of_reject 2 (by simp [probe, probeBlockComment])
  · rw [if_neg (by simp [eq_comm, ha])]
    exact match?_of_not_couldStart (by simp [couldStart, ha])

/-! ## Literals -/

theorem probeQuoted_cons (quote : Char) (rest : Text) :
    probeQuoted quote (quote :: rest) = .accept (1 + quotedWidth quote quote rest) := by
  simp [probeQuoted]

theorem match?_quotedString :
    quotedString.match? previous text =
      if text.head? = some '"' ∧ previous ≠ some '@' then
        some (1 + quotedWidth '"' '"' text.tail)
      else none := by
  rcases text with _ | ⟨a, rest⟩
  · rfl
  by_cases ha : a = '"'
  · subst ha
    by_cases hp : previous = some '@'
    · rw [if_neg (by simp [hp])]
      exact match?_of_reject 0 (by simp [probe, probeQuotedString, hp])
    · rw [if_pos ⟨rfl, hp⟩]
      refine match?_of_accept rfl ?_ (Nat.add_pos_left (by decide) _)
      rw [probe, probeQuotedString, if_neg hp, probeQuoted_cons, List.tail_cons]
  · rw [if_neg (by simp [ha])]
    exact match?_of_not_couldStart (by simp [couldStart, ha])

theorem match?_charLiteral :
    charLiteral.match? previous text =
      if text.head? = some '\'' then some (1 + quotedWidth '\'' '\'' text.tail) else none := by
  rcases text with _ | ⟨a, rest⟩
  · rfl
  by_cases ha : a = '\''
  · subst ha
    rw [List.head?_cons, if_pos rfl]
    exact match?_of_accept rfl (probeQuoted_cons '\'' rest) (Nat.add_pos_left (by decide) _)
  · rw [if_neg (by simp [ha])]
    exact match?_of_not_couldStart (by simp [couldStart, ha])

theorem match?_verbatimString :
    verbatimString.match? previous text =
      if text.head? = some '"' ∧ previous = some '@' then some (1 + verbatimWidth text.tail)
      else none := by
  rcases text with _ | ⟨a, rest⟩
  · rfl
  by_cases ha : a = '"'
  · subst ha
    by_cases hp : previous = some '@'
    · rw [if_pos ⟨rfl, hp⟩]
      exact match?_of_accept rfl (by simp [probe, probeVerbatimString, hp])
        (Nat.add_pos_left (by decide) _)
    · rw [if_neg (by simp [hp])]
      exact match?_of_reject 0 (by simp [probe, probeVerbatimString, hp])
  · rw [if_neg (by simp [ha])]
    exact match?_of_not_couldStart (by simp [couldStart, ha])

/-! ## Numbers, keywords and operators -/

theorem match?_number :
    number.match? previous text =
      if atBoundary previous ∧ text.head?.any isNumeric then
        some (text.takeWhile isNumeric).length
      else none := by
  rcases text with _ | ⟨a, rest⟩
  · simp
  by_cases ha : isNumeric a
  · have hpos : 0 < ((a :: rest).takeWhile isNumeric).length := by simp [ha]
    by_cases hp : atBoundary previous
    · rw [if_pos ⟨hp, by simpa using ha⟩]
      refine match?_of_accept (by simpa [couldStart, isNumeric] using ha) ?_ hpos
      simp only [probe, probeNumber, hp, hpos, Bool.true_and, decide_true, if_true]
    · rw [if_neg (fun h => hp h.1)]
      exact match?_of_reject 0 (by simp [probe, probeNumber, hp])
  · rw [if_neg (by simp [ha])]
    exact match?_of_not_couldStart (by simpa [couldStart, isNumeric] using ha)

theorem probe_symbol :
    symbol.probe previous text =
      match (narrow operators extendsRun text).longest with
      | some n => .accept n
      | none => .reject (narrow operators extendsRun text).read := by
  unfold probe probeSymbol Narrowing.width
  dsimp only
  cases (narrow operators extendsRun text).longest <;> rfl

/-- An operator is the longest one that the text begins with. -/
theorem match?_symbol : IsLongest operators (· <+: text) (symbol.match? previous text) := by
  have hlongest := longest_operator text
  have hprobe := probe_symbol previous text
  cases hfound : (narrow operators extendsRun text).longest with
  | none =>
    rw [hfound] at hlongest hprobe
    rwa [match?_of_reject _ hprobe]
  | some n =>
    rw [hfound] at hlongest hprobe
    obtain ⟨⟨word, hword, ⟨more, rfl⟩, rfl⟩, -⟩ := id hlongest
    obtain ⟨hne, hsymbol⟩ := operators_symbol word hword
    rcases word with _ | ⟨d, tail⟩
    · exact absurd rfl hne
    · have hstart : (d :: tail ++ more).head?.any symbol.couldStart :=
        hsymbol d List.mem_cons_self
      rwa [match?_of_accept hstart hprobe (Nat.succ_pos _)]

/-- A keyword that ends at a boundary is the longest one that the text begins with, because every
longer one has a letter there. -/
theorem longest_keyword_of_atBoundary {word rest : Text} (hword : word ∈ keywords)
    (hrest : atBoundary rest.head?) :
    (narrow keywords isIdentifier (word ++ rest)).longest = some word.length := by
  refine (longest_keyword (word ++ rest)).eq (b := some word.length)
    ⟨⟨word, hword, List.prefix_append word rest, rfl⟩, fun other hother hpre => ?_⟩
  apply Nat.not_lt.mp
  intro hlt
  obtain ⟨more, rfl⟩ := List.prefix_of_prefix_length_le (List.prefix_append word rest) hpre
    (Nat.le_of_lt hlt)
  rcases more with _ | ⟨d, more⟩
  · simp at hlt
  · obtain ⟨tail, rfl⟩ := List.prefix_append_right_inj word |>.mp hpre
    have hd := (keywords_lower _ hother).2 d (by simp)
    rw [List.cons_append, List.head?_cons,
      not_atBoundary_of_isIdentifier (isIdentifier_of_isLower hd)] at hrest
    cases hrest

/-- A keyword is a word of the table that stands between two boundaries. -/
theorem match?_keyword {n : Nat} :
    keyword.match? previous text = some n ↔
      atBoundary previous ∧
        ∃ word ∈ keywords, ∃ rest,
          text = word ++ rest ∧ atBoundary rest.head? ∧ word.length = n := by
  constructor
  · intro h
    have hprobe := (of_match?_eq_some h).2
    have hlongest := longest_keyword text
    simp only [probe, probeKeyword, Narrowing.width] at hprobe
    split at hprobe
    · rename_i hp
      cases hfound : (narrow keywords isIdentifier text).longest with
      | none => simp [hfound] at hprobe
      | some m =>
        rw [hfound] at hlongest
        obtain ⟨⟨word, hword, ⟨rest, rfl⟩, rfl⟩, -⟩ := hlongest
        simp only [hfound, Option.isSome_some, Option.getD_some, List.drop_left,
          Bool.true_and] at hprobe
        split at hprobe
        · rename_i hrest
          exact ⟨hp, word, hword, rest, rfl, hrest, Probe.accept.inj hprobe⟩
        · cases hprobe
    · cases hprobe
  · rintro ⟨hp, word, hword, rest, rfl, hrest, rfl⟩
    have hfound := longest_keyword_of_atBoundary hword hrest
    obtain ⟨hne, hlower⟩ := keywords_lower word hword
    rcases word with _ | ⟨d, tail⟩
    · exact absurd rfl hne
    · have hstart : (d :: tail ++ rest).head?.any keyword.couldStart :=
        hlower d List.mem_cons_self
      refine match?_of_accept hstart ?_ (Nat.succ_pos _)
      simp only [probe, probeKeyword, Narrowing.width, hp, hfound, Option.isSome_some,
        Option.getD_some, List.drop_left, hrest, Bool.true_and, if_true]

/-! ## The character ahead and the character behind -/

theorem not_couldStart_of_isNewline {c : Char} (h : isNewline c) (rule : Rule) :
    rule.couldStart c = false := by
  rcases isNewline_iff.mp h with rfl | rfl <;> cases rule <;> decide

/-- No rule claims a line end that is not part of a token already. -/
theorem match?_of_isNewline {c : Char} (h : isNewline c) (rule : Rule) (rest : Text) :
    rule.match? previous (c :: rest) = none :=
  match?_cons_of_not_couldStart (not_couldStart_of_isNewline h rule) rest

/-- Of all rules, only those for keywords and for numbers start with a word character, and that for
numbers with a digit. -/
theorem couldStart_of_isIdentifier {c : Char} (hc : isIdentifier c) {rule : Rule}
    (h : rule.couldStart c) : rule = keyword ∨ rule = number ∧ c.isDigit := by
  have hne : ∀ d, isIdentifier d = false → c ≠ d := by
    rintro d hd rfl
    rw [hc] at hd
    cases hd
  cases rule with
  | lineComment | blockComment => exact absurd (of_decide_eq_true h) (hne '/' (by decide))
  | verbatimString | quotedString => exact absurd (of_decide_eq_true h) (hne '"' (by decide))
  | charLiteral => exact absurd (of_decide_eq_true h) (hne '\'' (by decide))
  | keyword => exact .inl rfl
  | number =>
    refine .inr ⟨rfl, (Bool.or_eq_true_iff.mp h).resolve_right fun hpoint => ?_⟩
    exact hne '.' (by decide) (of_decide_eq_true hpoint)
  | symbol =>
    rw [couldStart, not_isSymbol_of_isIdentifier hc] at h
    cases h

/-- Of all rules, only the one for keywords starts with a lowercase letter. -/
theorem not_couldStart_of_isLower {c : Char} (h : c.isLower) {rule : Rule}
    (hrule : rule ≠ keyword) :
    rule.couldStart c = false := by
  rw [← Bool.not_eq_true]
  intro hstart
  obtain ⟨-, hdigit⟩ :=
    (couldStart_of_isIdentifier (isIdentifier_of_isLower h) hstart).resolve_left hrule
  rw [not_isDigit_of_isLower h] at hdigit
  cases hdigit

/-- In the middle of a word no rule finds a token. -/
theorem match?_of_isIdentifier {previous : Option Char} {c : Char}
    (hp : atBoundary previous = false) (hc : isIdentifier c) (rule : Rule) (rest : Text) :
    rule.match? previous (c :: rest) = none := by
  by_cases hstart : rule.couldStart c
  · rcases couldStart_of_isIdentifier hc hstart with rfl | ⟨rfl, -⟩
    · rw [Option.eq_none_iff_forall_ne_some]
      intro n hn
      rw [((match?_keyword _ _).mp hn).1] at hp
      cases hp
    · rw [match?_number, hp, if_neg fun h => absurd h.1 Bool.false_ne_true]
  · exact match?_cons_of_not_couldStart (Bool.not_eq_true _ ▸ hstart) rest

/-- Of the character behind, rules see whether it is a boundary and whether it is an `@`. -/
theorem match?_congr {p q : Option Char} (hboundary : atBoundary p = atBoundary q)
    (hat : p = some '@' ↔ q = some '@') (rule : Rule) (text : Text) :
    rule.match? p text = rule.match? q text := by
  have hprobe : rule.probe p text = rule.probe q text := by
    cases rule with
    | lineComment | blockComment | charLiteral | symbol => rfl
    | verbatimString => simp [probe, probeVerbatimString, hat]
    | quotedString => simp [probe, probeQuotedString, hat]
    | keyword => simp [probe, probeKeyword, hboundary]
    | number => simp [probe, probeNumber, hboundary]
  rw [match?, match?, hprobe]

/-! ## The first of several rules -/

section First

variable {previous : Option Char} {text : Text} {rules : List Rule} {rule : Rule} {n : Nat}

theorem firstMatch?_cons :
    firstMatch? (rule :: rules) previous text =
      ((rule.match? previous text).map (rule, ·)).or (firstMatch? rules previous text) := by
  rw [firstMatch?, List.findSome?_cons]
  cases rule.match? previous text <;> rfl

theorem firstMatch?_cons_of_none (h : rule.match? previous text = none) :
    firstMatch? (rule :: rules) previous text = firstMatch? rules previous text := by
  rw [firstMatch?_cons, h, Option.map_none, Option.none_or]

theorem firstMatch?_cons_of_some (h : rule.match? previous text = some n) :
    firstMatch? (rule :: rules) previous text = some (rule, n) := by
  rw [firstMatch?_cons, h, Option.map_some, Option.some_or]

theorem firstMatch?_eq_none_iff :
    firstMatch? rules previous text = none ↔ ∀ rule ∈ rules, rule.match? previous text = none := by
  simp [firstMatch?]

theorem of_firstMatch?_eq_some (h : firstMatch? rules previous text = some (rule, n)) :
    rule ∈ rules ∧ rule.match? previous text = some n := by
  obtain ⟨other, hmem, hother⟩ := List.exists_of_findSome?_eq_some h
  obtain ⟨m, hm, heq⟩ := Option.map_eq_some_iff.mp hother
  obtain ⟨rfl, rfl⟩ := Prod.mk.inj heq
  exact ⟨hmem, hm⟩

/-- The token that the first rule finds has at least one character and lies within the text. -/
theorem firstMatch?_bounds (h : firstMatch? rules previous text = some (rule, n)) :
    0 < n ∧ n ≤ text.length :=
  ⟨match?_pos (of_firstMatch?_eq_some h).2, match?_le (of_firstMatch?_eq_some h).2⟩

/-- Where only one rule can find a token, that rule alone decides. -/
theorem firstMatch?_of_sole {c : Char} (hsole : ∀ other ≠ rule, other.couldStart c = false)
    (rules : List Rule) (previous : Option Char) (rest : Text) :
    firstMatch? rules previous (c :: rest) =
      if rule ∈ rules then (rule.match? previous (c :: rest)).map (rule, ·) else none := by
  induction rules with
  | nil => rfl
  | cons other rules ih =>
    by_cases hother : other = rule
    · subst hother
      rw [if_pos List.mem_cons_self]
      cases hmatch : other.match? previous (c :: rest) with
      | some n => exact firstMatch?_cons_of_some hmatch
      | none =>
        rw [firstMatch?_cons_of_none hmatch, ih, hmatch]
        split <;> rfl
    · rw [firstMatch?_cons_of_none (match?_cons_of_not_couldStart (hsole other hother) rest), ih]
      simp only [List.mem_cons, Ne.symm hother, false_or]

theorem firstMatch?_of_isNewline {c : Char} (h : isNewline c) (rest : Text) :
    firstMatch? rules previous (c :: rest) = none :=
  firstMatch?_eq_none_iff.mpr fun rule _ => match?_of_isNewline previous h rule rest

theorem firstMatch?_of_isIdentifier {c : Char} (hp : atBoundary previous = false)
    (hc : isIdentifier c) (rest : Text) : firstMatch? rules previous (c :: rest) = none :=
  firstMatch?_eq_none_iff.mpr fun rule _ => match?_of_isIdentifier hp hc rule rest

theorem firstMatch?_congr {p q : Option Char} (hboundary : atBoundary p = atBoundary q)
    (hat : p = some '@' ↔ q = some '@') (rules : List Rule) (text : Text) :
    firstMatch? rules p text = firstMatch? rules q text := by
  simp only [firstMatch?, match?_congr hboundary hat]

end First

end Highlighter.Rule
