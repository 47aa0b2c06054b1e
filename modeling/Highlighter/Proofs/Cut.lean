import Mathlib.Data.List.Infix
import Highlighter.Proofs.Match

/-!
# Rules at a cut

What the rules find when the text ahead is cut off after some characters.

* `blockWidth_take`, `quotedWidth_take`, `verbatimWidth_take`: what reaches past the cut ends there.
* `match?_take`: a rule that sees enough to open finds the same token, shortened to the cut.
* `match?_keyword_take`: only the rule for keywords may find less or more, in a word that is cut.
* `firstMatch?_take`: the same for the first rule of a list.
* `firstMatch?_newline`: a token that does not go past the end of a line does not depend on what
  comes after it.
-/

namespace Highlighter.Rule

/-! ## Widths -/

theorem length_takeWhile_take (p : Char → Bool) (text : Text) (k : Nat) :
    ((text.take k).takeWhile p).length = min k (text.takeWhile p).length := by
  induction text generalizing k with
  | nil => simp
  | cons c rest ih =>
    rcases k with _ | k
    · simp
    · by_cases hc : p c
      · simp only [List.take_succ_cons, List.takeWhile_cons, hc, if_true, List.length_cons, ih]
        omega
      · simp [hc]

theorem head?_take_of_pos {text : Text} {k : Nat} (hk : 0 < k) :
    (text.take k).head? = text.head? := by
  rw [List.head?_take, if_neg (Nat.ne_of_gt hk)]

theorem blockWidth_cons (c : Char) (rest : Text) :
    blockWidth (c :: rest) =
      if c = '*' ∧ rest.head? = some '/' then 2 else blockWidth rest + 1 := by
  split
  · rename_i h
    obtain ⟨rfl, hhead⟩ := h
    obtain ⟨more, rfl⟩ := List.head?_eq_some_iff.mp hhead
    rfl
  · rename_i h
    rw [blockWidth]
    rintro more rfl rfl
    exact h ⟨rfl, rfl⟩

theorem blockWidth_take (text : Text) (k : Nat) :
    blockWidth (text.take k) = min k (blockWidth text) := by
  induction text generalizing k with
  | nil => simp [blockWidth]
  | cons c rest ih =>
    rcases k with _ | k
    · simp [blockWidth]
    rw [List.take_succ_cons, blockWidth_cons, blockWidth_cons, ih]
    by_cases h : c = '*' ∧ rest.head? = some '/'
    · rw [if_pos h]
      rcases k with _ | k
      · simp
      · rw [if_pos ⟨h.1, by rw [head?_take_of_pos (Nat.succ_pos k), h.2]⟩]
        omega
    · rw [if_neg h, if_neg]
      · omega
      · rintro ⟨hc, hhead⟩
        rcases k with _ | k
        · simp at hhead
        · rw [head?_take_of_pos (Nat.succ_pos k)] at hhead
          exact h ⟨hc, hhead⟩

theorem quotedWidth_take (quote last : Char) (text : Text) (k : Nat) :
    quotedWidth quote last (text.take k) = min k (quotedWidth quote last text) := by
  induction text generalizing last k with
  | nil => simp [quotedWidth]
  | cons c rest ih =>
    rcases k with _ | k
    · simp [quotedWidth]
    rw [List.take_succ_cons, quotedWidth, quotedWidth, ih]
    split <;> omega

theorem verbatimWidth_cons (c : Char) (rest : Text) :
    verbatimWidth (c :: rest) =
      if c = '"' then if rest.head? = some '"' then verbatimWidth rest.tail + 2 else 1
      else verbatimWidth rest + 1 := by
  rcases rest with _ | ⟨d, rest⟩
  · by_cases hc : c = '"' <;> simp [verbatimWidth, hc]
  · by_cases hc : c = '"' <;> by_cases hd : d = '"' <;> simp [verbatimWidth, hc, hd]

theorem verbatimWidth_take (text : Text) (k : Nat) :
    verbatimWidth (text.take k) = min k (verbatimWidth text) := by
  fun_induction verbatimWidth text generalizing k with
  | case1 => simp [verbatimWidth]
  | case2 rest ih =>
    rcases k with _ | _ | k
    · simp [verbatimWidth]
    · simp [verbatimWidth]
    · rw [List.take_succ_cons, List.take_succ_cons, verbatimWidth, ih]
      omega
  | case3 rest hrest =>
    rcases k with _ | k
    · simp [verbatimWidth]
    rw [List.take_succ_cons, verbatimWidth_cons, if_pos rfl, if_neg]
    · omega
    · intro hhead
      rcases k with _ | k
      · simp at hhead
      · rw [head?_take_of_pos (Nat.succ_pos k)] at hhead
        obtain ⟨more, rfl⟩ := List.head?_eq_some_iff.mp hhead
        exact hrest more rfl
  | case4 c rest hdouble hsingle ih =>
    rcases k with _ | k
    · simp [verbatimWidth]
    rw [List.take_succ_cons, verbatimWidth_cons, if_neg hsingle, ih]
    omega

/-! ## One rule -/

/-- The number of characters that a rule must see before it may open. -/
def openerLength : Rule → Nat
  | lineComment | blockComment => 2
  | _ => 1

theorem openerLength_pos (rule : Rule) : 0 < rule.openerLength := by cases rule <;> decide

/-- A token of an opener and a body whose width ends at a cut ends there itself. -/
theorem map_min_body {W : Text → Nat} (hW : ∀ text k, W (text.take k) = min k (W text)) {a k : Nat}
    (hk : a ≤ k) (text : Text) :
    some (a + W ((text.take k).drop a)) = (some (a + W (text.drop a))).map (min k) := by
  rw [List.drop_take, hW, Option.map_some, Option.some.injEq]
  omega

variable {previous : Option Char} {text : Text} {k : Nat}

/-- What is left of an operator at a cut is an operator too. -/
theorem match?_symbol_take (hk : 0 < k) :
    symbol.match? previous (text.take k) = (symbol.match? previous text).map (min k) := by
  refine (match?_symbol previous (text.take k)).eq ?_
  have hlongest := match?_symbol previous text
  cases hfound : symbol.match? previous text with
  | none =>
    rw [hfound] at hlongest
    exact fun word hword hpre => hlongest word hword (List.prefix_take_iff.mp hpre).1
  | some n =>
    rw [hfound] at hlongest
    obtain ⟨⟨word, hword, hpre, rfl⟩, hmax⟩ := hlongest
    refine ⟨⟨word.take k, ?_, List.IsPrefix.take hpre k, List.length_take⟩, ?_⟩
    · obtain ⟨j, rfl⟩ : ∃ j, k = j + 1 := Nat.exists_eq_succ_of_ne_zero (Nat.ne_of_gt hk)
      rcases Nat.lt_or_ge j word.length with hj | hj
      · exact take_mem_operators word hword j hj
      · rwa [List.take_of_length_le (Nat.le_succ_of_le hj)]
    · intro other hother hother_pre
      obtain ⟨hother_pre, hlen⟩ := List.prefix_take_iff.mp hother_pre
      exact Nat.le_min.mpr ⟨hlen, hmax other hother hother_pre⟩

/-- A rule that sees enough to open finds the same token before a cut, or one that ends there. -/
theorem match?_take {rule : Rule} (hrule : rule ≠ keyword) (hk : rule.openerLength ≤ k) :
    rule.match? previous (text.take k) = (rule.match? previous text).map (min k) := by
  have hhead : (text.take k).head? = text.head? :=
    head?_take_of_pos (Nat.lt_of_lt_of_le rule.openerLength_pos hk)
  cases rule with
  | lineComment =>
    rw [match?_lineComment, match?_lineComment]
    by_cases h : ['/', '/'] <+: text
    · rw [if_pos (List.prefix_take_iff.mpr ⟨h, hk⟩), if_pos h]
      exact map_min_body (W := fun rest => (rest.takeWhile (!isNewline ·)).length)
        (length_takeWhile_take _) hk text
    · rw [if_neg (fun h' => h (List.prefix_take_iff.mp h').1), if_neg h, Option.map_none]
  | blockComment =>
    rw [match?_blockComment, match?_blockComment]
    by_cases h : ['/', '*'] <+: text
    · rw [if_pos (List.prefix_take_iff.mpr ⟨h, hk⟩), if_pos h]
      exact map_min_body blockWidth_take hk text
    · rw [if_neg (fun h' => h (List.prefix_take_iff.mp h').1), if_neg h, Option.map_none]
  | verbatimString =>
    rw [match?_verbatimString, match?_verbatimString, hhead]
    split
    · simpa only [List.drop_one] using map_min_body (a := 1) verbatimWidth_take hk text
    · rfl
  | quotedString =>
    rw [match?_quotedString, match?_quotedString, hhead]
    split
    · simpa only [List.drop_one] using map_min_body (a := 1) (quotedWidth_take '"' '"') hk text
    · rfl
  | charLiteral =>
    rw [match?_charLiteral, match?_charLiteral, hhead]
    split
    · simpa only [List.drop_one] using map_min_body (a := 1) (quotedWidth_take '\'' '\'') hk text
    · rfl
  | keyword => exact absurd rfl hrule
  | number =>
    rw [match?_number, match?_number, hhead]
    split
    · rw [length_takeWhile_take, Option.map_some]
    · rfl
  | symbol => exact match?_symbol_take hk

/-- A comment is not seen before both its opening characters are. -/
theorem match?_take_of_lt {rule : Rule} (hk : k < rule.openerLength) :
    rule.match? previous (text.take k) = none := by
  have hshort : ∀ opener : Text, opener.length = 2 → ¬ opener <+: text.take k := by
    intro opener hlen hpre
    have := (List.prefix_take_iff.mp hpre).2
    have : rule.openerLength ≤ 2 := by cases rule <;> decide
    omega
  cases rule with
  | lineComment => rw [match?_lineComment, if_neg (hshort _ rfl)]
  | blockComment => rw [match?_blockComment, if_neg (hshort _ rfl)]
  | _ =>
    obtain rfl : k = 0 := Nat.lt_one_iff.mp hk
    exact match?_nil previous _

/-- A keyword that is all there is of a word is the whole of it. -/
theorem length_of_match?_keyword (hlower : ∀ c ∈ text, c.isLower) {m : Nat}
    (h : keyword.match? previous text = some m) : m = text.length := by
  obtain ⟨-, word, -, rest, rfl, hrest, rfl⟩ := (match?_keyword previous text).mp h
  rcases rest with _ | ⟨d, rest⟩
  · rw [List.append_nil]
  · have hd : isIdentifier d := isIdentifier_of_isLower (hlower d (by simp))
    rw [List.head?_cons, not_atBoundary_of_isIdentifier hd] at hrest
    cases hrest

/-- A cut in a word may end a keyword that was none, or leave a part of one that is none. Nothing
else changes. -/
theorem match?_keyword_take (previous : Option Char) (text : Text) (k : Nat) :
    keyword.match? previous (text.take k) = (keyword.match? previous text).map (min k) ∨
      ((∀ c ∈ text.take k, c.isLower) ∧ k < text.length ∧
        (∀ m, keyword.match? previous (text.take k) = some m → m = k) ∧
        ∀ n, keyword.match? previous text = some n → k < n) := by
  cases hfull : keyword.match? previous text with
  | some n =>
    obtain ⟨hp, word, hword, rest, rfl, hrest, rfl⟩ := (match?_keyword previous text).mp hfull
    rcases Nat.lt_or_ge k word.length with hk | hk
    · have htake : (word ++ rest).take k = word.take k :=
        List.take_append_of_le_length (Nat.le_of_lt hk)
      have hlower : ∀ c ∈ word.take k, c.isLower :=
        fun c hc => (keywords_lower word hword).2 c (List.mem_of_mem_take hc)
      rw [htake]
      refine .inr ⟨hlower, ?_, fun m hm => ?_, fun n hn => ?_⟩
      · rw [List.length_append]
        omega
      · rw [length_of_match?_keyword hlower hm, List.length_take, Nat.min_eq_left (Nat.le_of_lt hk)]
      · rwa [← Option.some.inj hn]
    · left
      rw [List.take_append, List.take_of_length_le hk, Option.map_some, Nat.min_eq_right hk]
      refine (match?_keyword _ _).mpr ⟨hp, word, hword, _, rfl, ?_, rfl⟩
      rcases Nat.eq_zero_or_pos (k - word.length) with h | h
      · rw [h]
        rfl
      · rwa [head?_take_of_pos h]
  | none =>
    cases hcut : keyword.match? previous (text.take k) with
    | none => exact .inl rfl
    | some m =>
      obtain ⟨hp, word, hword, rest, htake, hrest, rfl⟩ := (match?_keyword _ _).mp hcut
      -- Were there more before the cut, it would be a keyword in the whole text too.
      have hnil : rest = [] := by
        rcases rest with _ | ⟨d, rest⟩
        · rfl
        · have htext : text = word ++ (d :: rest ++ text.drop k) := by
            rw [← List.append_assoc, ← htake, List.take_append_drop]
          rw [(match?_keyword _ _).mpr ⟨hp, word, hword, _, htext, hrest, rfl⟩] at hfull
          cases hfull
      rw [hnil, List.append_nil] at htake
      have hlt : k < text.length := by
        apply Nat.lt_of_not_le
        intro hle
        rw [List.take_of_length_le hle] at hcut
        rw [hcut] at hfull
        cases hfull
      refine .inr ⟨fun c hc => ?_, hlt, fun m hm => ?_, fun n hn => ?_⟩
      · rw [htake] at hc
        exact (keywords_lower word hword).2 c hc
      · rw [← Option.some.inj hm, ← htake, List.length_take, Nat.min_eq_left (Nat.le_of_lt hlt)]
      · cases hn

/-! ## The first of several rules -/

/-- Where a lowercase letter follows, the rule for keywords alone decides. -/
theorem firstMatch?_of_head_isLower {c : Char} (hc : c.isLower) (rules : List Rule)
    (previous : Option Char) (rest : Text) :
    firstMatch? rules previous (c :: rest) =
      if keyword ∈ rules then (keyword.match? previous (c :: rest)).map (keyword, ·) else none :=
  firstMatch?_of_sole (fun _ => not_couldStart_of_isLower hc) rules previous rest

/-- A cut within a word, or within the opener of a comment: no token ends before it, neither in the
whole text nor in what is left of it. -/
structure CutsFirst (rules : List Rule) (previous : Option Char) (text : Text) (k : Nat) :
    Prop where
  word_or_one : (∀ c ∈ text.take k, c.isLower) ∨ k = 1
  lt_length : k < text.length
  at_cut : ∀ rule m, firstMatch? rules previous (text.take k) = some (rule, m) → m = k
  past_cut : ∀ rule n, firstMatch? rules previous text = some (rule, n) → k < n

theorem firstMatch?_take_of_head_isLower {c : Char} {rest : Text} {rules : List Rule}
    (hc : c.isLower) (hk : 0 < k) :
    firstMatch? rules previous ((c :: rest).take k) =
        (firstMatch? rules previous (c :: rest)).map (Prod.map id (min k)) ∨
      CutsFirst rules previous (c :: rest) k := by
  have hcut : firstMatch? rules previous ((c :: rest).take k) =
      if keyword ∈ rules then
        (keyword.match? previous ((c :: rest).take k)).map (keyword, ·)
      else none := by
    obtain ⟨j, rfl⟩ : ∃ j, k = j + 1 := Nat.exists_eq_succ_of_ne_zero (Nat.ne_of_gt hk)
    rw [List.take_succ_cons]
    exact firstMatch?_of_head_isLower hc rules previous _
  have hfull := firstMatch?_of_head_isLower hc rules previous rest
  by_cases hmem : keyword ∈ rules
  · rw [if_pos hmem] at hcut hfull
    rcases match?_keyword_take previous (c :: rest) k with
      heq | ⟨hlower, hlt, hat, hpast⟩
    · left
      rw [hcut, hfull, heq, Option.map_map, Option.map_map]
      rfl
    · refine .inr ⟨.inl hlower, hlt, fun rule m hm => ?_, fun rule n hn => ?_⟩
      · rw [hcut] at hm
        obtain ⟨m', hm', heq⟩ := Option.map_eq_some_iff.mp hm
        rw [← (Prod.mk.inj heq).2]
        exact hat m' hm'
      · rw [hfull] at hn
        obtain ⟨n', hn', heq⟩ := Option.map_eq_some_iff.mp hn
        rw [← (Prod.mk.inj heq).2]
        exact hpast n' hn'
  · left
    rw [if_neg hmem] at hcut hfull
    rw [hcut, hfull, Option.map_none]

theorem openerLength_le_of_match? {rule : Rule} {n : Nat} (h : rule.match? previous text = some n) :
    rule.openerLength ≤ n := by
  cases rule with
  | lineComment =>
    rw [match?_lineComment] at h
    split at h
    · rw [← Option.some.inj h]
      exact Nat.le_add_right 2 _
    · cases h
  | blockComment =>
    rw [match?_blockComment] at h
    split at h
    · rw [← Option.some.inj h]
      exact Nat.le_add_right 2 _
    · cases h
  | _ => exact match?_pos h

/-- Where no word follows, only the opener of a comment is lost at a cut. -/
theorem match?_take_of_head_not_isLower {c : Char} (hc : ¬ c.isLower) (hk : 0 < k)
    (previous : Option Char) (rest : Text) (rule : Rule) :
    rule.match? previous ((c :: rest).take k) =
        (rule.match? previous (c :: rest)).map (min k) ∨
      k = 1 ∧ ∃ n, rule.match? previous (c :: rest) = some n ∧ 1 < n := by
  by_cases hrule : rule = keyword
  · obtain ⟨j, rfl⟩ : ∃ j, k = j + 1 := Nat.exists_eq_succ_of_ne_zero (Nat.ne_of_gt hk)
    have hstart : rule.couldStart c = false := by
      subst hrule
      simpa [couldStart] using hc
    left
    rw [List.take_succ_cons, match?_cons_of_not_couldStart hstart,
      match?_cons_of_not_couldStart hstart, Option.map_none]
  · rcases Nat.lt_or_ge k rule.openerLength with hlt | hle
    · rw [match?_take_of_lt hlt]
      cases hfull : rule.match? previous (c :: rest) with
      | none => exact .inl rfl
      | some n =>
        have hn := openerLength_le_of_match? hfull
        have : rule.openerLength ≤ 2 := by cases rule <;> decide
        exact .inr ⟨by omega, n, rfl, by omega⟩
    · exact .inl (match?_take hrule hle)

theorem firstMatch?_take_of_head_not_isLower {c : Char} {rest : Text} (hc : ¬ c.isLower)
    (hk : 0 < k) (rules : List Rule) :
    firstMatch? rules previous ((c :: rest).take k) =
        (firstMatch? rules previous (c :: rest)).map (Prod.map id (min k)) ∨
      CutsFirst rules previous (c :: rest) k := by
  induction rules with
  | nil => exact .inl rfl
  | cons rule rules ih =>
    rcases match?_take_of_head_not_isLower hc hk previous rest rule with
      heq | ⟨rfl, n, hn, hlt⟩
    · cases hfull : rule.match? previous (c :: rest) with
      | some n =>
        rw [hfull] at heq
        left
        rw [firstMatch?_cons_of_some heq, firstMatch?_cons_of_some hfull]
        rfl
      | none =>
        rw [hfull] at heq
        rcases ih with ih | ih
        · left
          rw [firstMatch?_cons_of_none heq, firstMatch?_cons_of_none hfull, ih]
        · refine .inr ⟨ih.word_or_one, ih.lt_length, ?_, ?_⟩
          · rw [firstMatch?_cons_of_none heq]
            exact ih.at_cut
          · rw [firstMatch?_cons_of_none hfull]
            exact ih.past_cut
    · refine .inr ⟨.inr rfl, ?_, fun other m hm => ?_, fun other m hm => ?_⟩
      · exact Nat.lt_of_lt_of_le hlt (match?_le hn)
      · have := firstMatch?_bounds hm
        rw [List.length_take] at this
        omega
      · rw [firstMatch?_cons_of_some hn] at hm
        obtain ⟨rfl, rfl⟩ := Prod.mk.inj (Option.some.inj hm)
        exact hlt

/-- **What is found at a cut.** The first rule finds the same token, shortened to the cut, unless a
word or the opener of a comment is cut. -/
theorem firstMatch?_take (rules : List Rule) (previous : Option Char) (text : Text) (hk : 0 < k) :
    firstMatch? rules previous (text.take k) =
        (firstMatch? rules previous text).map (Prod.map id (min k)) ∨
      CutsFirst rules previous text k := by
  rcases text with _ | ⟨c, rest⟩
  · rw [List.take_nil, firstMatch?_eq_none_iff.mpr fun rule _ => match?_nil previous rule]
    exact .inl rfl
  · by_cases hc : c.isLower
    · exact firstMatch?_take_of_head_isLower hc hk
    · exact firstMatch?_take_of_head_not_isLower hc hk rules

/-! ## The end of a line -/

section Newline

variable {line : Text} {c : Char}

/-- The rule for keywords takes the end of a line for the end of the text. -/
theorem match?_keyword_newline (hc : isNewline c) (rest : Text) :
    keyword.match? previous (line ++ c :: rest) = keyword.match? previous line := by
  apply Option.ext
  intro n
  rw [match?_keyword, match?_keyword]
  refine and_congr_right fun _ => exists_congr fun word => and_congr_right fun hword => ?_
  constructor
  · rintro ⟨after, htext, hafter, hlen⟩
    rcases List.append_eq_append_iff.mp htext with ⟨more, rfl, hrest⟩ | ⟨more, rfl, hrest⟩
    · rcases more with _ | ⟨d, more⟩
      · exact ⟨[], by simp, rfl, hlen⟩
      · -- The word would have the line end in it.
        obtain ⟨rfl, -⟩ := List.cons.inj hrest
        have hlower := (keywords_lower _ hword).2 c (by simp)
        rw [not_isLower_of_isNewline hc] at hlower
        cases hlower
    · refine ⟨more, rfl, ?_, hlen⟩
      rcases more with _ | ⟨d, more⟩
      · rfl
      · rwa [hrest] at hafter
  · rintro ⟨after, rfl, hafter, hlen⟩
    refine ⟨after ++ c :: rest, List.append_assoc _ _ _, ?_, hlen⟩
    rcases after with _ | ⟨d, after⟩
    · exact atBoundary_of_isNewline hc
    · exact hafter

/-- A comment does not open with the last character of a line. -/
theorem match?_newline_of_lt {rule : Rule} (hc : isNewline c)
    (hlen : line.length < rule.openerLength) (hline : line ≠ []) (rest : Text) :
    rule.match? previous (line ++ c :: rest) = none := by
  rcases line with _ | ⟨a, _ | ⟨b, line⟩⟩
  · exact absurd rfl hline
  · have hopener : ∀ d, ¬ isNewline d → ¬ ['/', d] <+: [a] ++ c :: rest := by
      rintro d hd ⟨more, hmore⟩
      simp only [List.cons_append, List.nil_append, List.cons.injEq] at hmore
      rw [hmore.2.1] at hd
      exact hd hc
    cases rule with
    | lineComment => rw [match?_lineComment, if_neg (hopener '/' (by decide))]
    | blockComment => rw [match?_blockComment, if_neg (hopener '*' (by decide))]
    | _ => exact absurd hlen (Nat.lt_irrefl 1)
  · have : rule.openerLength ≤ 2 := by cases rule <;> decide
    simp only [List.length_cons] at hlen
    omega

/-- A rule finds a token past the end of a line whatever comes after it, or it finds the same with
the line alone. -/
theorem match?_newline (hc : isNewline c) (hline : line ≠ []) (rule : Rule)
    (previous : Option Char) :
    (∀ rest, ∃ n, rule.match? previous (line ++ c :: rest) = some n ∧ line.length < n) ∨
      ∀ rest, rule.match? previous (line ++ c :: rest) = rule.match? previous line := by
  by_cases hrule : rule = keyword
  · subst hrule
    exact .inr (match?_keyword_newline hc)
  rcases Nat.lt_or_ge line.length rule.openerLength with hlt | hle
  · right
    intro rest
    have hcut : rule.match? previous (line.take line.length) = none := match?_take_of_lt hlt
    rw [List.take_length] at hcut
    rw [match?_newline_of_lt hc hlt hline, hcut]
  · -- Cuts right before and right after the line end tell the two cases apart.
    have hbefore : ∀ rest, rule.match? previous line =
        (rule.match? previous (line ++ c :: rest)).map (min line.length) := by
      intro rest
      rw [← match?_take hrule hle, List.take_left]
    have hafter : ∀ rest, rule.match? previous (line ++ [c]) =
        (rule.match? previous (line ++ c :: rest)).map (min (line.length + 1)) := by
      intro rest
      have htake : (line ++ c :: rest).take (line.length + 1) = line ++ [c] := by
        rw [List.append_cons line c rest, List.take_left' (by simp)]
      rw [← htake, match?_take hrule (Nat.le_succ_of_le hle)]
    by_cases hpast : ∃ n, rule.match? previous (line ++ [c]) = some n ∧ line.length < n
    · left
      intro rest
      obtain ⟨n, hn, hlt⟩ := hpast
      rw [hafter rest] at hn
      obtain ⟨m, hm, rfl⟩ := Option.map_eq_some_iff.mp hn
      exact ⟨m, hm, by omega⟩
    · right
      intro rest
      rw [hbefore rest]
      cases hm : rule.match? previous (line ++ c :: rest) with
      | none => rfl
      | some m =>
        rw [Option.map_some, Option.some.injEq, Nat.min_eq_right]
        apply Nat.not_lt.mp
        intro hlt
        exact hpast ⟨_, by rw [hafter rest, hm]; rfl, by omega⟩

/-- **What is found before the end of a line.** The first rule finds a token past the end of the
line whatever comes after it, or it finds the same with the line alone. -/
theorem firstMatch?_newline (hc : isNewline c) (hline : line ≠ []) (rules : List Rule)
    (previous : Option Char) :
    (∀ rest, ∃ rule n, firstMatch? rules previous (line ++ c :: rest) = some (rule, n) ∧
        line.length < n) ∨
      ∀ rest, firstMatch? rules previous (line ++ c :: rest) = firstMatch? rules previous line := by
  induction rules with
  | nil => exact .inr fun _ => rfl
  | cons rule rules ih =>
    rcases match?_newline hc hline rule previous with hpast | heq
    · left
      intro rest
      obtain ⟨n, hn, hlt⟩ := hpast rest
      exact ⟨rule, n, firstMatch?_cons_of_some hn, hlt⟩
    · cases hmatch : rule.match? previous line with
      | some n =>
        right
        intro rest
        rw [firstMatch?_cons_of_some hmatch, firstMatch?_cons_of_some ((heq rest).trans hmatch)]
      | none =>
        have hnone : ∀ rest, firstMatch? (rule :: rules) previous (line ++ c :: rest) =
            firstMatch? rules previous (line ++ c :: rest) :=
          fun rest => firstMatch?_cons_of_none ((heq rest).trans hmatch)
        rw [firstMatch?_cons_of_none hmatch]
        simp only [hnone]
        exact ih

end Newline

end Highlighter.Rule
