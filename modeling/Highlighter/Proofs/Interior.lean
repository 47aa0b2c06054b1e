import Highlighter.Proofs.Contention
import Highlighter.Proofs.Cut
import Highlighter.Proofs.Lines

/-!
# The interior of comments and literals

What stands between the opener and the closer of a comment or a literal has no effect on the tokens
around it, whatever it contains but the closer.

* `Enclosure`: the forms of token that have an opener, an interior and a closer.
* `Enclosure.replace`, `Enclosure.Admits`: a text with another interior in a token, and what may be
  written there.
* `blockWidth_append`, `quotedWidth_append`: a token reaches to the first closer after its interior.
* `firstMatch?_around`: the token is found with any interior.
* `spansFrom_after_around`: what comes after it does not see the interior.
* `spans_replace_interior`: replacing the interior moves the tokens after it and changes nothing
  else.
-/

namespace Highlighter

/-! ## Openers and closers -/

/-- The forms of token that have an opener, an interior and a closer. A line comment has no closer:
it goes on to the end of its line. -/
inductive Enclosure where
  | lineComment
  | blockComment
  | quotedString
  | charLiteral
deriving DecidableEq, Repr

namespace Enclosure

/-- The rule that makes tokens of a form. -/
def rule : Enclosure → Rule
  | lineComment => .lineComment
  | blockComment => .blockComment
  | quotedString => .quotedString
  | charLiteral => .charLiteral

/-- How a token of a form begins. -/
def opener : Enclosure → Text
  | lineComment => ['/', '/']
  | blockComment => ['/', '*']
  | quotedString => ['"']
  | charLiteral => ['\'']

/-- How a token of a form ends. -/
def closer : Enclosure → Text
  | lineComment => []
  | blockComment => ['*', '/']
  | quotedString => ['"']
  | charLiteral => ['\'']

/-- The token with a given interior. -/
def around (form : Enclosure) (interior : Text) : Text := form.opener ++ interior ++ form.closer

/-- Whether a token ends with a closer that is no part of its opener. A line comment needs none. -/
def Closed (form : Enclosure) (token : Text) : Prop :=
  match form with
  | lineComment => True
  | blockComment | quotedString | charLiteral =>
    form.opener.length + form.closer.length ≤ token.length ∧ form.closer <:+ token

/-- What stands between the opener and the closer of a token from `start` to `stop`. -/
def interior (form : Enclosure) (text : Text) (start stop : Nat) : Text :=
  Text.slice text (start + form.opener.length) (stop - form.closer.length)

/-- The text with something else between the opener and the closer of a token from `start` to
`stop`. -/
def replace (form : Enclosure) (text : Text) (start stop : Nat) (w : Text) : Text :=
  text.take (start + form.opener.length) ++ w ++ text.drop (stop - form.closer.length)

/-- What may be written between opener and closer: no line end in a line comment, no `*/` in a block
comment, and in a literal no quote and no backslash at the end. -/
def Admits (form : Enclosure) (interior : Text) : Prop :=
  match form with
  | lineComment => ∀ c ∈ interior, isNewline c = false
  | blockComment => ¬ ['*', '/'] <:+: interior
  | quotedString => '"' ∉ interior ∧ interior.getLast? ≠ some '\\'
  | charLiteral => '\'' ∉ interior ∧ interior.getLast? ≠ some '\\'

/-- What has to stand around a token: a line comment ends with its line, and a quoted string does not
follow an `@`. -/
def Stands (form : Enclosure) (previous : Option Char) (rest : Text) : Prop :=
  match form with
  | lineComment => rest.head?.all isNewline
  | quotedString => previous ≠ some '@'
  | blockComment | charLiteral => True

theorem length_around (form : Enclosure) (interior : Text) :
    (form.around interior).length =
      form.opener.length + form.closer.length + interior.length := by
  rw [around, List.length_append, List.length_append]
  omega

theorem rule_ne_symbol (form : Enclosure) : form.rule ≠ .symbol := by cases form <;> decide

/-- A text with a token in it, with another interior there. -/
theorem replace_append_around (form : Enclosure) (before body rest w : Text) :
    form.replace (before ++ (form.around body ++ rest)) before.length
        (before.length + (form.around body).length) w =
      before ++ (form.around w ++ rest) := by
  have hhead : before ++ (form.around body ++ rest) =
      (before ++ form.opener) ++ (body ++ form.closer ++ rest) := by
    simp only [around, List.append_assoc]
  have htail : before ++ (form.around body ++ rest) =
      (before ++ form.opener ++ body) ++ (form.closer ++ rest) := by
    simp only [around, List.append_assoc]
  have hstop : before.length + (form.around body).length - form.closer.length =
      (before ++ form.opener ++ body).length := by
    simp only [length_around, List.length_append]
    omega
  rw [replace, hstop, htail, List.drop_left, ← htail, hhead,
    List.take_left' List.length_append]
  simp only [around, List.append_assoc]

theorem interior_append_around (form : Enclosure) (before body rest : Text) :
    form.interior (before ++ (form.around body ++ rest)) before.length
      (before.length + (form.around body).length) = body := by
  have hhead : before ++ (form.around body ++ rest) =
      (before ++ form.opener) ++ (body ++ (form.closer ++ rest)) := by
    simp only [around, List.append_assoc]
  have hlen : before.length + (form.around body).length - form.closer.length -
      (before.length + form.opener.length) = body.length := by
    rw [length_around]
    omega
  rw [interior, Text.slice, hlen, hhead, List.drop_left' List.length_append, List.take_left]

end Enclosure

/-! ## Widths -/

namespace Rule

/-- A block comment reaches to the first closer. -/
theorem blockWidth_append {interior : Text} (h : ¬ ['*', '/'] <:+: interior) (rest : Text) :
    blockWidth (interior ++ '*' :: '/' :: rest) = interior.length + 2 := by
  induction interior with
  | nil => rfl
  | cons c interior ih =>
    have hopen : ¬ (c = '*' ∧ (interior ++ '*' :: '/' :: rest).head? = some '/') := by
      rintro ⟨rfl, hhead⟩
      rcases interior with _ | ⟨d, interior⟩
      · cases hhead
      · obtain rfl := Option.some.inj hhead
        exact h ⟨[], interior, rfl⟩
    rw [List.cons_append, blockWidth_cons, if_neg hopen,
      ih fun hmem => h (hmem.trans (List.suffix_cons c interior).isInfix), List.length_cons,
      Nat.add_right_comm]

/-- A literal reaches to the first quote, if no backslash stands before that. -/
theorem quotedWidth_append {quote last : Char} {interior : Text} (hquote : quote ∉ interior)
    (hlast : interior.getLast?.getD last ≠ '\\') (rest : Text) :
    quotedWidth quote last (interior ++ quote :: rest) = interior.length + 1 := by
  induction interior generalizing last with
  | nil => rw [List.nil_append, quotedWidth, if_pos ⟨rfl, hlast⟩, List.length_nil]
  | cons c interior ih =>
    have hc : ¬ (c = quote ∧ last ≠ '\\') := fun h => hquote (h.1 ▸ List.mem_cons_self)
    rw [List.getLast?_cons, Option.getD_some] at hlast
    rw [List.cons_append, quotedWidth, if_neg hc,
      ih (fun hmem => hquote (List.mem_cons_of_mem c hmem)) hlast, List.length_cons]

end Rule

/-! ## One token -/

namespace Enclosure

variable {form : Enclosure} {rules : List Rule} {previous : Option Char} {interior w rest : Text}

theorem head?_around (form : Enclosure) (interior rest : Text) :
    (form.around interior ++ rest).head? = form.opener.head? := by
  cases form <;> rfl

theorem drop_around (form : Enclosure) (interior rest : Text) :
    (form.around interior ++ rest).drop form.opener.length = interior ++ (form.closer ++ rest) := by
  rw [around, List.append_assoc, List.append_assoc, List.drop_left]

/-- A token begins with its opener. -/
theorem opener_prefix_of_match? {text : Text} {n : Nat}
    (h : form.rule.match? previous text = some n) : form.opener <+: text := by
  cases form with
  | lineComment | blockComment =>
    simp only [rule, Rule.match?_lineComment, Rule.match?_blockComment] at h
    split at h
    · assumption
    · cases h
  | quotedString =>
    rw [rule, Rule.match?_quotedString] at h
    split at h
    · rename_i hcontext
      obtain ⟨rest, rfl⟩ := List.head?_eq_some_iff.mp hcontext.1
      exact ⟨rest, rfl⟩
    · cases h
  | charLiteral =>
    rw [rule, Rule.match?_charLiteral] at h
    split at h
    · rename_i hhead
      obtain ⟨rest, rfl⟩ := List.head?_eq_some_iff.mp hhead
      exact ⟨rest, rfl⟩
    · cases h

/-- A closed token is an opener, an interior and a closer. -/
theorem exists_interior {text : Text} {n : Nat} (h : form.rule.match? previous text = some n)
    (hclosed : form.Closed (text.take n)) : ∃ body, text.take n = form.around body := by
  have hopener : form.opener <+: text.take n := by
    refine List.prefix_take_iff.mpr ⟨opener_prefix_of_match? h, ?_⟩
    have := Rule.openerLength_le_of_match? h
    have hlen : form.opener.length = form.rule.openerLength := by cases form <;> rfl
    omega
  obtain ⟨body, hbody⟩ := hopener
  rw [← hbody] at hclosed ⊢
  cases form with
  | lineComment => exact ⟨body, by rw [around, closer, List.append_nil]⟩
  | blockComment | quotedString | charLiteral =>
    obtain ⟨hlen, hsuffix⟩ := hclosed
    rw [List.length_append] at hlen
    obtain ⟨inner, rfl⟩ := List.suffix_of_suffix_length_le hsuffix (List.suffix_append _ body)
      (Nat.le_of_add_le_add_left hlen)
    exact ⟨inner, by rw [around, List.append_assoc]⟩

/-- A token that ends after its closer stands where it can. -/
theorem stands_of_match?
    (h : form.rule.match? previous (form.around interior ++ rest) =
      some (form.around interior).length) : form.Stands previous rest := by
  cases form with
  | lineComment =>
    have hopener : ['/', '/'] <+: lineComment.around interior ++ rest := ⟨_, rfl⟩
    rw [rule, Rule.match?_lineComment, if_pos hopener, length_around] at h
    have hlen : ((interior ++ rest).takeWhile (!isNewline ·)).length = interior.length := by
      rw [← Nat.add_left_cancel (Option.some.inj h)]
      exact congrArg (fun body : Text => (body.takeWhile (!isNewline ·)).length)
        (drop_around lineComment interior rest).symm
    rw [List.takeWhile_append] at hlen
    rcases rest with _ | ⟨c, rest⟩
    · rfl
    · show isNewline c = true
      by_cases hc : isNewline c
      · exact hc
      · rw [List.takeWhile_cons_of_pos (by simpa using hc)] at hlen
        split at hlen
        · simp at hlen
        · contradiction
  | quotedString =>
    rw [rule, Rule.match?_quotedString] at h
    split at h
    · rename_i hcontext
      exact hcontext.2
    · cases h
  | blockComment | charLiteral => trivial

theorem quotedWidth_closer {quote : Char} (hbackslash : quote ≠ '\\') (hquote : quote ∉ w)
    (hlast : w.getLast? ≠ some '\\') (rest : Text) :
    Rule.quotedWidth quote quote (w ++ quote :: rest) = w.length + 1 := by
  refine Rule.quotedWidth_append hquote ?_ rest
  cases hw : w.getLast? with
  | none => exact hbackslash
  | some c =>
    rintro rfl
    exact hlast hw

/-- A token is found with any interior. -/
theorem match?_around (h : form.Stands previous rest) (hw : form.Admits w) :
    form.rule.match? previous (form.around w ++ rest) = some (form.around w).length := by
  rw [length_around]
  cases form with
  | lineComment =>
    have hopener : ['/', '/'] <+: lineComment.around w ++ rest := ⟨_, rfl⟩
    have hbody : (lineComment.around w ++ rest).drop 2 = w ++ rest := drop_around lineComment w rest
    have hrest : rest.takeWhile (!isNewline ·) = [] := by
      rcases rest with _ | ⟨c, rest⟩
      · rfl
      · have hc : isNewline c = true := h
        rw [List.takeWhile_cons_of_neg (by simp [hc])]
    rw [rule, Rule.match?_lineComment, if_pos hopener, hbody,
      List.takeWhile_append_of_pos fun c hc => by simp [hw c hc], hrest, List.append_nil]
    rfl
  | blockComment =>
    have hopener : ['/', '*'] <+: blockComment.around w ++ rest := ⟨_, rfl⟩
    have hbody : (blockComment.around w ++ rest).drop 2 = w ++ '*' :: '/' :: rest :=
      drop_around blockComment w rest
    rw [rule, Rule.match?_blockComment, if_pos hopener, hbody, Rule.blockWidth_append hw,
      Option.some.injEq]
    show 2 + (w.length + 2) = 2 + 2 + w.length
    omega
  | quotedString =>
    have hbody : (quotedString.around w ++ rest).tail = w ++ '"' :: rest :=
      drop_around quotedString w rest
    rw [rule, Rule.match?_quotedString, if_pos ⟨rfl, h⟩, hbody,
      quotedWidth_closer (by decide) hw.1 hw.2, Option.some.injEq]
    show 1 + (w.length + 1) = 1 + 1 + w.length
    omega
  | charLiteral =>
    have hbody : (charLiteral.around w ++ rest).tail = w ++ '\'' :: rest :=
      drop_around charLiteral w rest
    have hhead : (charLiteral.around w ++ rest).head? = some '\'' := rfl
    rw [rule, Rule.match?_charLiteral, if_pos hhead, hbody,
      quotedWidth_closer (by decide) hw.1 hw.2, Option.some.injEq]
    show 1 + (w.length + 1) = 1 + 1 + w.length
    omega

theorem firstMatch?_around
    (h : Rule.firstMatch? rules previous (form.around interior ++ rest) =
      some (form.rule, (form.around interior).length)) (hw : form.Admits w) :
    Rule.firstMatch? rules previous (form.around w ++ rest) =
      some (form.rule, (form.around w).length) := by
  have hstands := stands_of_match? (Rule.of_firstMatch?_eq_some h).2
  have hhead : (form.around w ++ rest).head? = (form.around interior ++ rest).head? := by
    rw [head?_around, head?_around]
  exact Rule.firstMatch?_of_head? form.rule_ne_symbol hhead h (match?_around hstands hw)

/-- The last character of a token is that of its closer, and after a token without one its line
ends: what comes after does not see the interior. -/
theorem spansFrom_after_around (h : form.Stands previous rest) (rules : List Rule)
    (interior w : Text) (position : Nat) :
    spansFrom rules (form.around interior).getLast? position rest =
      spansFrom rules (form.around w).getLast? position rest := by
  cases form with
  | lineComment =>
    rcases rest with _ | ⟨c, rest⟩
    · rfl
    · have hc : isNewline c := h
      rw [spansFrom, stepsFrom_newline hc, spansFrom, stepsFrom_newline hc]
  | blockComment | quotedString | charLiteral =>
    simp only [around, closer, List.getLast?_append, List.getLast?_cons, Option.some_or]

end Enclosure

/-! ## The tokens before -/

/-- Before a character that is no lowercase letter, no token depends on what comes after it. -/
theorem interchangeable_cons {c : Char} (hc : c.isLower = false) (rules : List Rule)
    (text other : Text) : Interchangeable rules (c :: text) (c :: other) := by
  intro previous before hbefore h
  have htake : ∀ rest, (before ++ c :: rest).take (before.length + 1) = before ++ [c] := by
    intro rest
    rw [List.append_cons before c rest, List.take_left' (by simp)]
  -- The cut after the character is neither in a word nor in an opener.
  have hcut : ∀ rest, Rule.firstMatch? rules previous (before ++ [c]) =
      (Rule.firstMatch? rules previous (before ++ c :: rest)).map
        (Prod.map id (min (before.length + 1))) := by
    intro rest
    rcases Rule.firstMatch?_take rules previous (before ++ c :: rest)
      (Nat.succ_pos before.length) with heq | hcuts
    · rw [← heq, htake]
    · rcases hcuts.word_or_one with hword | hone
      · rw [htake] at hword
        rw [hword c (by simp)] at hc
        cases hc
      · exact absurd (List.length_eq_zero_iff.mp (Nat.succ.inj hone)) hbefore
  have hsame := (hcut other).symm.trans (hcut text)
  cases htext : Rule.firstMatch? rules previous (before ++ c :: text) with
  | none =>
    rw [htext, Option.map_none, Option.map_eq_none_iff] at hsame
    exact hsame
  | some found =>
    obtain ⟨rule, n⟩ := found
    have hn := h rule n htext
    rw [htext, Option.map_some, Option.map_eq_some_iff] at hsame
    obtain ⟨⟨rule', m⟩, hother, heq⟩ := hsame
    obtain ⟨rfl, hmin⟩ := Prod.mk.inj heq
    replace hmin : min (before.length + 1) m = min (before.length + 1) n := hmin
    obtain rfl : m = n := by omega
    exact hother

theorem Enclosure.interchangeable_around (form : Enclosure) (rules : List Rule)
    (interior w rest : Text) :
    Interchangeable rules (form.around interior ++ rest) (form.around w ++ rest) := by
  cases form <;> exact interchangeable_cons (by decide) rules _ _

/-! ## The whole text -/

section Replace

variable {rules : List Rule} {form : Enclosure} {previous : Option Char} {position : Nat}
  {before interior w rest : Text}

theorem spansFrom_around
    (h : Rule.firstMatch? rules previous (form.around interior ++ rest) =
      some (form.rule, (form.around interior).length)) (hw : form.Admits w) :
    ∃ later, (∀ span ∈ later, position + (form.around interior).length ≤ span.start) ∧
      spansFrom rules previous position (form.around interior ++ rest) =
        ⟨position, position + (form.around interior).length, form.rule⟩ :: later ∧
      spansFrom rules previous position (form.around w ++ rest) =
        ⟨position, position + (form.around w).length, form.rule⟩ ::
          later.map (Span.rebase interior.length w.length) := by
  have hstands := form.stands_of_match? (Rule.of_firstMatch?_eq_some h).2
  refine ⟨spansFrom rules (form.around interior).getLast?
    (position + (form.around interior).length) rest, fun span hspan => (spansFrom_bounds hspan).1,
    ?_, ?_⟩
  · rw [spansFrom_token h, List.take_left, List.drop_left]
  · have hlen : ∀ body, position + (form.around body).length =
        position + (form.opener.length + form.closer.length) + body.length :=
      fun body => by rw [form.length_around, ← Nat.add_assoc position]
    rw [spansFrom_token (form.firstMatch?_around h hw), List.take_left, List.drop_left, hlen, hlen,
      spansFrom_rebase, form.spansFrom_after_around hstands rules interior w]

/-- The tokens of a text with a comment or a literal in it, and with another interior there. -/
theorem spans_append_around
    (hspan : ⟨before.length, before.length + (form.around interior).length, form.rule⟩ ∈
      spans rules (before ++ (form.around interior ++ rest))) (hw : form.Admits w) :
    ∃ earlier later, (∀ span ∈ earlier, span.stop ≤ before.length) ∧
      (∀ span ∈ later, before.length + (form.around interior).length ≤ span.start) ∧
      spans rules (before ++ (form.around interior ++ rest)) = earlier ++
        ⟨before.length, before.length + (form.around interior).length, form.rule⟩ :: later ∧
      spans rules (before ++ (form.around w ++ rest)) = earlier ++
        ⟨before.length, before.length + (form.around w).length, form.rule⟩ ::
          later.map (Span.rebase interior.length w.length) := by
  have hcross : ∀ span ∈ spansFrom rules none 0 (before ++ (form.around interior ++ rest)),
      ¬ span.Crosses (0 + before.length) := by
    intro span hmem
    rw [Nat.zero_add]
    exact (tiles_steps rules _).not_crosses hmem hspan
  obtain ⟨done, htiles, hold, hnew⟩ :=
    stepsFrom_append (form.interchangeable_around rules interior w rest) hcross
  rw [Nat.zero_add] at htiles hold hnew
  have hearlier : ∀ span ∈ done.filterMap Step.span?, span.stop ≤ before.length :=
    fun span hmem => (htiles.span_bounds hmem).2.2
  have hfirst := firstMatch?_of_mem_spans hspan
  rw [List.take_left, List.drop_left, ← Option.or_none (o := before.getLast?)] at hfirst
  obtain ⟨later, hlater, hspans, hspans'⟩ := spansFrom_around hfirst hw
  refine ⟨done.filterMap Step.span?, later, hearlier, hlater, ?_, ?_⟩
  · rw [spans, steps, hold, List.filterMap_append, ← spansFrom, hspans]
  · rw [spans, steps, hnew, List.filterMap_append, ← spansFrom, hspans']

end Replace

/-- **The interior of comments and literals is opaque.** Any other interior that the form of a closed
token admits leaves the tokens before it as they are, makes one token of the same form in its place,
and moves the tokens after it by the difference in length. -/
theorem spans_replace_interior (rules : List Rule) (form : Enclosure) (text : Text)
    (start stop : Nat) (w : Text) (hspan : ⟨start, stop, form.rule⟩ ∈ spans rules text)
    (hclosed : form.Closed (Text.slice text start stop)) (hw : form.Admits w) :
    ∃ earlier later,
      (∀ span ∈ earlier, span.stop ≤ start) ∧ (∀ span ∈ later, stop ≤ span.start) ∧
      spans rules text = earlier ++ ⟨start, stop, form.rule⟩ :: later ∧
      spans rules (form.replace text start stop w) =
        earlier ++ ⟨start, stop - (form.interior text start stop).length + w.length, form.rule⟩ ::
          later.map (Span.rebase (form.interior text start stop).length w.length) := by
  have hbounds : start < stop ∧ stop ≤ 0 + text.length := (spansFrom_bounds hspan).2
  obtain ⟨n, rfl⟩ : ∃ n, stop = start + n := Nat.exists_eq_add_of_le (Nat.le_of_lt hbounds.1)
  obtain ⟨before, tail, rfl, rfl⟩ : ∃ before tail, text = before ++ tail ∧ before.length = start :=
    ⟨text.take start, text.drop start, (List.take_append_drop start text).symm,
      List.length_take_of_le (by omega)⟩
  have hfirst := firstMatch?_of_mem_spans hspan
  have hmatch := (Rule.of_firstMatch?_eq_some hfirst).2
  rw [Text.slice, Nat.add_sub_cancel_left] at hclosed
  obtain ⟨body, hbody⟩ := form.exists_interior hmatch hclosed
  rw [List.drop_left] at hmatch hbody
  obtain ⟨rest, rfl⟩ : ∃ rest, tail = form.around body ++ rest :=
    ⟨tail.drop n, by rw [← hbody, List.take_append_drop]⟩
  have hlen : (form.around body).length = n := by
    rw [← hbody, List.length_take_of_le (Rule.match?_le hmatch)]
  subst hlen
  have hmoved : before.length + (form.around body).length - body.length + w.length =
      before.length + (form.around w).length := by
    rw [form.length_around, form.length_around]
    omega
  rw [form.replace_append_around, form.interior_append_around, hmoved]
  exact spans_append_around hspan hw

/-- A string with an escaped quote in it, and one with comment openers and a keyword in its place. -/
theorem spans_replace_string :
    ⟨1, 6, .quotedString⟩ ∈ spans Rule.priority "(\"a\\\"\")+1".toList ∧
      Enclosure.quotedString.Closed (Text.slice "(\"a\\\"\")+1".toList 1 6) ∧
      Enclosure.quotedString.Admits "// if /*".toList ∧
      ∃ earlier later,
        spans Rule.priority "(\"a\\\"\")+1".toList =
          earlier ++ ⟨1, 6, .quotedString⟩ :: later ∧
        spans Rule.priority "(\"// if /*\")+1".toList =
          earlier ++ ⟨1, 11, .quotedString⟩ :: later.map (Span.rebase 3 8) := by
  have hspan : ⟨1, 6, .quotedString⟩ ∈ spans Rule.priority "(\"a\\\"\")+1".toList := by decide
  have hclosed : Enclosure.quotedString.Closed (Text.slice "(\"a\\\"\")+1".toList 1 6) :=
    ⟨by decide, "\"a\\\"".toList, rfl⟩
  have hadmits : Enclosure.quotedString.Admits "// if /*".toList := ⟨by decide, by decide⟩
  obtain ⟨earlier, later, -, -, hold, hnew⟩ := spans_replace_interior Rule.priority .quotedString
    "(\"a\\\"\")+1".toList 1 6 "// if /*".toList hspan hclosed hadmits
  exact ⟨hspan, hclosed, hadmits, earlier, later, hold, hnew⟩

end Highlighter
