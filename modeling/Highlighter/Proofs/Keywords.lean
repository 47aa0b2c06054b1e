import Highlighter.Proofs.Newline

/-!
# Leaving out keywords

A keyword stands between two boundaries and has word characters only. Without the rule for keywords
a scan goes past it one character after the other, finds nothing in it, and is back in step behind
it; the characters make up a word that begins and ends where the keyword does.

* `withoutKeywords`: a list of rules without the one for keywords.
* `stepsFrom_withoutKeywords`: a scan with such a list has the characters of each keyword as plain
  steps, and the same steps otherwise.
* `spans_withoutKeywords`, `tokens_withoutKeywords`: the tokens and words that it finds.
* `keywords_left_out`: no other token, no depth and no new line depends on the rule for keywords,
  and a caret finds the same part of the text without it.
-/

namespace Highlighter

variable {rules : List Rule} {previous : Option Char} {position : Nat}

/-- The rules of a list but for the one for keywords. -/
def withoutKeywords (rules : List Rule) : List Rule := rules.filter (· ≠ .keyword)

theorem mem_withoutKeywords {rule : Rule} :
    rule ∈ withoutKeywords rules ↔ rule ∈ rules ∧ rule ≠ .keyword := by
  rw [withoutKeywords, List.mem_filter, decide_eq_true_eq]

/-! ## One place -/

namespace Rule

/-- Where a keyword is found, no other rule finds a token. -/
theorem match?_of_match?_keyword {text : Text} {n : Nat}
    (h : keyword.match? previous text = some n) {rule : Rule} (hrule : rule ≠ keyword) :
    rule.match? previous text = none := by
  rcases text with _ | ⟨c, rest⟩
  · rfl
  · have hlower : c.isLower := (of_match?_eq_some h).1
    exact match?_cons_of_not_couldStart (not_couldStart_of_isLower hlower hrule) rest

/-- **Without the rule for keywords** the first rule finds what it finds with it, unless that is a
keyword, and nothing in its place. -/
theorem firstMatch?_withoutKeywords (rules : List Rule) (previous : Option Char) (text : Text) :
    firstMatch? (withoutKeywords rules) previous text =
      (firstMatch? rules previous text).filter (·.1 ≠ keyword) := by
  induction rules with
  | nil => rfl
  | cons rule rules ih =>
    by_cases hrule : rule = keyword
    · subst hrule
      have hdrop : withoutKeywords (keyword :: rules) = withoutKeywords rules := rfl
      rw [hdrop]
      cases hmatch : keyword.match? previous text with
      | none => rw [firstMatch?_cons_of_none hmatch, ih]
      | some n =>
        rw [firstMatch?_cons_of_some hmatch]
        exact firstMatch?_eq_none_iff.mpr fun other hother =>
          match?_of_match?_keyword hmatch (mem_withoutKeywords.mp hother).2
    · have hkeep : withoutKeywords (rule :: rules) = rule :: withoutKeywords rules :=
        List.filter_cons_of_pos (decide_eq_true hrule)
      rw [hkeep]
      cases hmatch : rule.match? previous text with
      | none => rw [firstMatch?_cons_of_none hmatch, firstMatch?_cons_of_none hmatch, ih]
      | some n =>
        rw [firstMatch?_cons_of_some hmatch, firstMatch?_cons_of_some hmatch,
          Option.filter_some, if_pos (decide_eq_true hrule)]

/-- A keyword that is found consists of word characters, and a boundary follows it. -/
theorem of_firstMatch?_keyword {text : Text} {n : Nat}
    (h : firstMatch? rules previous text = some (keyword, n)) :
    ∃ (c : Char) (word rest : Text), text = c :: word ++ rest ∧ (c :: word).length = n ∧
      (∀ d ∈ c :: word, isIdentifier d) ∧ atBoundary rest.head? := by
  obtain ⟨-, word, hword, rest, rfl, hrest, rfl⟩ :=
    (match?_keyword _ _).mp (of_firstMatch?_eq_some h).2
  obtain ⟨hne, hlower⟩ := keywords_lower word hword
  rcases word with _ | ⟨c, word⟩
  · exact absurd rfl hne
  · exact ⟨c, word, rest, rfl, rfl, fun d hd => isIdentifier_of_isLower (hlower d hd), hrest⟩

end Rule

/-! ## The steps -/

/-- The steps past a text from an offset on, each of them plain. -/
def spelled (position : Nat) : Text → List Step
  | [] => []
  | c :: rest => .plain position c :: spelled (position + 1) rest

/-- A step, or the steps past the characters of a keyword. -/
def Step.spell : Step → List Step
  | token span text => if span.rule = .keyword then spelled span.start text else [token span text]
  | plain position c => [plain position c]

/-- In the middle of a word a scan goes past word characters one after the other. -/
theorem stepsFrom_append_of_isIdentifier {word : Text} (hprevious : atBoundary previous = false)
    (hword : ∀ c ∈ word, isIdentifier c) (rest : Text) :
    stepsFrom rules previous position 0 (word ++ rest) =
      spelled position word ++
        stepsFrom rules (word.getLast?.or previous) (position + word.length) 0 rest := by
  induction word generalizing previous position with
  | nil => rfl
  | cons c word ih =>
    obtain ⟨hc, hword⟩ := List.forall_mem_cons.mp hword
    have hnone : Rule.firstMatch? rules previous (c :: (word ++ rest)) = none :=
      Rule.firstMatch?_of_isIdentifier hprevious hc (word ++ rest)
    have hlast : (c :: word).getLast?.or previous = word.getLast?.or (some c) :=
      getLast?_append_or (List.cons_ne_nil c []) word
    rw [List.cons_append, stepsFrom_plain hnone, ih (not_atBoundary_of_isIdentifier hc) hword,
      hlast, List.length_cons, Nat.add_comm word.length, ← Nat.add_assoc]
    rfl

/-- **Without the rule for keywords** a scan goes past the characters of each keyword, and has all
its other steps. -/
theorem stepsFrom_withoutKeywords (rules : List Rule) (previous : Option Char) (position : Nat)
    (text : Text) :
    stepsFrom (withoutKeywords rules) previous position 0 text =
      (stepsFrom rules previous position 0 text).flatMap Step.spell := by
  induction previous, position, text using scan_induction rules with
  | nil => rfl
  | plain previous position c rest h ih =>
    have hnone : Rule.firstMatch? (withoutKeywords rules) previous (c :: rest) = none := by
      rw [Rule.firstMatch?_withoutKeywords, h, Option.filter_none]
    rw [stepsFrom_plain h, stepsFrom_plain hnone, ih]
    rfl
  | token previous position text rule n h ih =>
    have hfirst := Rule.firstMatch?_withoutKeywords rules previous text
    rw [h, Option.filter_some] at hfirst
    rw [stepsFrom_token h, List.flatMap_cons, ← ih]
    by_cases hrule : rule = .keyword
    · subst hrule
      obtain ⟨c, word, rest, rfl, rfl, hword, -⟩ := Rule.of_firstMatch?_keyword h
      rw [List.take_left, List.drop_left]
      -- The first character is passed since no rule finds a token there, and all others since they
      -- are in the middle of a word.
      obtain ⟨hc, hword⟩ := List.forall_mem_cons.mp hword
      have hnone : Rule.firstMatch? (withoutKeywords rules) previous (c :: (word ++ rest)) = none :=
        hfirst
      have hlast : word.getLast?.or (some c) = (c :: word).getLast? := by
        rw [← Option.or_none (o := (c :: word).getLast?)]
        exact (getLast?_append_or (List.cons_ne_nil c []) word).symm
      rw [List.cons_append, stepsFrom_plain hnone,
        stepsFrom_append_of_isIdentifier (not_atBoundary_of_isIdentifier hc) hword, hlast,
        List.length_cons, Nat.add_comm word.length, ← Nat.add_assoc]
      rfl
    · rw [if_pos (decide_eq_true hrule)] at hfirst
      have hkeep : (Step.token ⟨position, position + n, rule⟩ (text.take n)).spell =
          [.token ⟨position, position + n, rule⟩ (text.take n)] := if_neg hrule
      rw [stepsFrom_token hfirst, hkeep]
      rfl

/-! ## Tokens and depth -/

theorem filterMap_span?_spelled (position : Nat) (text : Text) :
    (spelled position text).filterMap Step.span? = [] := by
  induction text generalizing position with
  | nil => rfl
  | cons c rest ih => exact ih (position + 1)

theorem filterMap_span?_flatMap_spell (all : List Step) :
    (all.flatMap Step.spell).filterMap Step.span? =
      (all.filterMap Step.span?).filter (·.rule ≠ .keyword) := by
  induction all with
  | nil => rfl
  | cons step all ih =>
    rw [List.flatMap_cons, List.filterMap_append, ih]
    rcases step with ⟨span, text⟩ | ⟨position, c⟩
    · show _ = (span :: all.filterMap Step.span?).filter _
      by_cases hrule : span.rule = .keyword
      · rw [Step.spell, if_pos hrule, filterMap_span?_spelled, List.filter_cons_of_neg (by simpa)]
        rfl
      · rw [Step.spell, if_neg hrule, List.filter_cons_of_pos (by simpa)]
        rfl
    · rfl

/-- **The tokens without the rule for keywords** are all others. -/
theorem spans_withoutKeywords (rules : List Rule) (text : Text) :
    spans (withoutKeywords rules) text = (spans rules text).filter (·.rule ≠ .keyword) := by
  rw [spans, steps, stepsFrom_withoutKeywords, filterMap_span?_flatMap_spell]
  rfl

theorem hasBrace_withoutKeywords {text : Text} {brace : Char} {i : Nat} :
    HasBrace (withoutKeywords rules) text brace i ↔ HasBrace rules text brace i := by
  rw [HasBrace, HasBrace, spans_withoutKeywords, List.mem_filter]
  simp

theorem indentLevel_withoutKeywords (rules : List Rule) (text : Text) (caret : Nat) :
    indentLevel (withoutKeywords rules) text caret = indentLevel rules text caret := by
  induction caret with
  | zero => rw [indentLevel_zero, indentLevel_zero]
  | succ caret ih =>
    rw [indentLevel_succ, indentLevel_succ, ih, nestAt, nestAt,
      if_congr hasBrace_withoutKeywords rfl (if_congr hasBrace_withoutKeywords rfl rfl)]

/-! ## Words -/

/-- A token, with a keyword taken for a word. -/
def Token.asWord (token : Token) : Token :=
  if token.rule = some .keyword then { token with rule := none } else token

theorem Token.start_asWord (token : Token) : token.asWord.start = token.start := by
  unfold asWord
  split <;> rfl

theorem Token.stop_asWord (token : Token) : token.asWord.stop = token.stop := by
  unfold asWord
  split <;> rfl

/-- Words do not join keywords: a word character in front of tokens makes the same of them whether a
keyword is taken for a word or not, if none begins right behind it. -/
theorem consWord_map_asWord {rest : List Token}
    (h : ∀ stop, ⟨position + 1, stop, some .keyword⟩ ∉ rest) :
    consWord position (rest.map Token.asWord) = (consWord position rest).map Token.asWord := by
  rcases rest with _ | ⟨⟨start, stop, _ | rule⟩, rest⟩
  · rfl
  · show consWord position (⟨start, stop, none⟩ :: rest.map Token.asWord) = _
    rw [consWord, consWord]
    split <;> rfl
  · by_cases hrule : rule = .keyword
    · subst hrule
      have hstart : start ≠ position + 1 := by
        rintro rfl
        exact h stop List.mem_cons_self
      exact if_neg hstart
    · have hkeep : Token.asWord ⟨start, stop, some rule⟩ = ⟨start, stop, some rule⟩ :=
        if_neg fun heq => hrule (Option.some.inj heq)
      rw [List.map_cons, hkeep]
      show ⟨position, position + 1, none⟩ :: _ = Token.asWord _ :: Token.asWord _ :: _
      rw [hkeep]
      rfl

/-- Word characters in front of steps make up a word that joins the one right behind it. -/
theorem tokensOf_spelled_append {c : Char} {word : Text} (hword : ∀ d ∈ c :: word, isIdentifier d)
    (more : List Step) :
    tokensOf (spelled position (c :: word) ++ more) =
      joinWord position (position + (c :: word).length) (tokensOf more) := by
  induction word generalizing position c with
  | nil =>
    show tokensOf (.plain position c :: more) = _
    rw [tokensOf, if_pos (hword c List.mem_cons_self), consWord_eq_joinWord]
    rfl
  | cons d word ih =>
    obtain ⟨hc, hword⟩ := List.forall_mem_cons.mp hword
    show tokensOf (.plain position c :: (spelled (position + 1) (d :: word) ++ more)) = _
    have hstop : position + (c :: d :: word).length = position + 1 + (d :: word).length := by
      rw [List.length_cons, Nat.add_comm _ 1, ← Nat.add_assoc]
    rw [tokensOf, if_pos hc, ih hword, consWord_joinWord, hstop]

/-- No word begins where a boundary follows. -/
theorem not_mem_tokensOf_of_atBoundary {rest : Text} (hrest : atBoundary rest.head?) (last : Nat) :
    ⟨position, last, none⟩ ∉ tokensOf (stepsFrom rules previous position 0 rest) := by
  intro hmem
  have htiles := tiles_stepsFrom rules previous position rest
  have hrun := htiles.mem_tokensOf_none.mp hmem
  obtain ⟨c, hplain, hc⟩ := hrun.all position (Nat.le_refl _) hrun.lt
  have hhead := htiles.getElem?_plain hplain
  rw [flatMap_text_stepsFrom, Nat.sub_self, ← List.head?_eq_getElem?] at hhead
  rw [hhead, not_atBoundary_of_isIdentifier hc] at hrest
  cases hrest

/-- No keyword begins behind a word character. -/
theorem not_mem_tokensOf_of_isIdentifier {c : Char} (hc : isIdentifier c) {rest : Text}
    (stop : Nat) :
    ⟨position, stop, some .keyword⟩ ∉ tokensOf (stepsFrom rules (some c) position 0 rest) := by
  intro hmem
  have hspan : ⟨position, stop, .keyword⟩ ∈ spansFrom rules (some c) position rest :=
    mem_tokensOf_some.mp hmem
  have hlt : position < stop := (spansFrom_bounds hspan).2.1
  obtain ⟨n, rfl⟩ := Nat.exists_eq_add_of_le (Nat.le_of_lt hlt)
  have hmatch := (Rule.of_firstMatch?_eq_some (firstMatch?_of_mem_spansFrom hspan)).2
  have hboundary := ((Rule.match?_keyword _ _).mp hmatch).1
  rw [not_atBoundary_of_isIdentifier hc] at hboundary
  cases hboundary

theorem tokensOf_stepsFrom_withoutKeywords (rules : List Rule) (previous : Option Char)
    (position : Nat) (text : Text) :
    tokensOf (stepsFrom (withoutKeywords rules) previous position 0 text) =
      (tokensOf (stepsFrom rules previous position 0 text)).map Token.asWord := by
  induction previous, position, text using scan_induction rules with
  | nil => rfl
  | plain previous position c rest h ih =>
    have hnone : Rule.firstMatch? (withoutKeywords rules) previous (c :: rest) = none := by
      rw [Rule.firstMatch?_withoutKeywords, h, Option.filter_none]
    rw [stepsFrom_plain h, stepsFrom_plain hnone, tokensOf, tokensOf, ih]
    split
    · rename_i hc
      exact consWord_map_asWord (not_mem_tokensOf_of_isIdentifier hc)
    · rfl
  | token previous position text rule n h ih =>
    rw [stepsFrom_withoutKeywords, stepsFrom_token h, List.flatMap_cons,
      ← stepsFrom_withoutKeywords, tokensOf, List.map_cons, ← ih]
    by_cases hrule : rule = .keyword
    · subst hrule
      obtain ⟨c, word, rest, rfl, rfl, hword, hrest⟩ := Rule.of_firstMatch?_keyword h
      rw [List.take_left, List.drop_left]
      show tokensOf (spelled position (c :: word) ++ _) = _
      rw [tokensOf_spelled_append hword,
        joinWord_of_not_mem (not_mem_tokensOf_of_atBoundary hrest)]
      rfl
    · have hstep : (Step.token ⟨position, position + n, rule⟩ (text.take n)).spell =
          [.token ⟨position, position + n, rule⟩ (text.take n)] := if_neg hrule
      have htoken : Token.asWord ⟨position, position + n, some rule⟩ =
          ⟨position, position + n, some rule⟩ := if_neg fun heq => hrule (Option.some.inj heq)
      rw [hstep, htoken]
      rfl

/-- **The tokens and words without the rule for keywords** are the same, with a word in the place of
each keyword. -/
theorem tokens_withoutKeywords (rules : List Rule) (text : Text) :
    tokens (withoutKeywords rules) text = (tokens rules text).map Token.asWord :=
  tokensOf_stepsFrom_withoutKeywords rules none 0 text

/-- A keyword is a word then, with the same bounds. -/
example : tokens (withoutKeywords Rule.priority) "a if(b)".toList =
    [⟨0, 1, none⟩, ⟨2, 4, none⟩, ⟨4, 5, some .symbol⟩, ⟨5, 6, none⟩, ⟨6, 7, some .symbol⟩] := by
  decide

theorem tokenAt_withoutKeywords (rules : List Rule) (text : Text) (caret : Nat) :
    tokenAt (withoutKeywords rules) text caret = (tokenAt rules text caret).map Token.asWord := by
  have htouches : (·.touches caret) ∘ Token.asWord = (·.touches caret) := by
    funext token
    rw [Function.comp_apply, Token.touches, Token.start_asWord, Token.stop_asWord, Token.touches]
  have hstart : (fun token : Token => decide (token.start = caret)) ∘ Token.asWord =
      fun token => decide (token.start = caret) := by
    funext token
    rw [Function.comp_apply, Token.start_asWord]
  rw [tokenAt, tokenAt, tokens_withoutKeywords, List.find?_map, List.find?_map, htouches, hstart,
    Option.map_or]

/-- **Nothing but keywords depends on the rule for keywords.** Without it the tokens are all others,
the depth at a caret and what a new line inserts there are the same, and a caret finds the same part
of the text: a word where it found a keyword, and the same token or word otherwise. -/
theorem keywords_left_out (rules : List Rule) (text : Text) :
    spans (withoutKeywords rules) text = (spans rules text).filter (·.rule ≠ .keyword) ∧
    (∀ caret, indentLevel (withoutKeywords rules) text caret = indentLevel rules text caret) ∧
    (∀ caret unit,
      newlineIndent (withoutKeywords rules) text caret unit = newlineIndent rules text caret unit) ∧
    ∀ caret, tokenAt (withoutKeywords rules) text caret =
      (tokenAt rules text caret).map Token.asWord := by
  refine ⟨spans_withoutKeywords rules text, indentLevel_withoutKeywords rules text,
    fun caret unit => ?_, tokenAt_withoutKeywords rules text⟩
  rw [newlineIndent, newlineIndent, indentLevel_withoutKeywords]

end Highlighter
