import Highlighter.Proofs.Words

/-!
# The token at a caret

A caret stands between two characters. The token or word of the one before it is the answer, and
only if that one has none, the token or word of the one after it.

* `plain_mem_steps_iff`, `InWord`: the plain steps, and the word characters among them.
* `HasToken`, `hasToken_iff`: the token or word at an offset, which is one of those of the text.
* `IsCovered`, `exists_hasToken_iff`: whether there is one.
* `tokenAt_of_before`, `tokenAt_of_after`, `tokenAt_of_none`: what a caret finds.
* `tokenAt_answers`: all of it together.
-/

namespace Highlighter

variable {rules : List Rule} {text : Text} {i caret : Nat} {token : Token}

/-! ## Plain characters -/

/-- Steps that tile a text leave no offset out. -/
theorem Tiles.exists_step {start stop : Nat} {all : List Step} (h : Tiles start all stop)
    (hle : start ≤ i) (hlt : i < stop) : ∃ step ∈ all, step.start ≤ i ∧ i < step.stop := by
  induction all generalizing start with
  | nil => exact absurd (h ▸ hle) (Nat.not_le.mpr hlt)
  | cons first rest ih =>
    obtain ⟨rfl, -, -, hrest⟩ := h
    rcases Nat.lt_or_ge i first.stop with hfirst | hlater
    · exact ⟨first, List.mem_cons_self, hle, hfirst⟩
    · obtain ⟨step, hmem, hstep⟩ := ih hrest hlater
      exact ⟨step, List.mem_cons_of_mem first hmem, hstep⟩

/-- Steps that tile a text go past no offset twice. -/
theorem Tiles.eq_of_mem {start stop : Nat} {all : List Step} (h : Tiles start all stop)
    {a b : Step} (ha : a ∈ all) (hb : b ∈ all) (hai : a.start ≤ i ∧ i < a.stop)
    (hbi : b.start ≤ i ∧ i < b.stop) : a = b := by
  induction all generalizing start with
  | nil => cases ha
  | cons first rest ih =>
    have hrest := h.2.2.2
    rcases List.mem_cons.mp ha with rfl | ha' <;> rcases List.mem_cons.mp hb with rfl | hb'
    · rfl
    · have := (hrest.bounds hb').1
      omega
    · have := (hrest.bounds ha').1
      omega
    · exact ih hrest ha' hb'

/-- A plain step goes past the character at its offset. -/
theorem Tiles.getElem?_plain {start stop : Nat} {all : List Step} (h : Tiles start all stop)
    {c : Char} (hmem : .plain i c ∈ all) : (all.flatMap Step.text)[i - start]? = some c := by
  induction all generalizing start with
  | nil => cases hmem
  | cons first rest ih =>
    obtain ⟨rfl, -, hstop, hrest⟩ := h
    rw [List.flatMap_cons]
    rcases List.mem_cons.mp hmem with rfl | hmem
    · rw [Step.start, Nat.sub_self]
      rfl
    · have hle : first.stop ≤ i := (hrest.bounds hmem).1
      rw [List.getElem?_append_right (by omega), ← ih hrest hmem]
      congr 1
      omega

/-- The plain steps of a scan go past the characters that no token covers. -/
theorem plain_mem_steps_iff {c : Char} :
    .plain i c ∈ steps rules text ↔
      text[i]? = some c ∧ ∀ span ∈ spans rules text, ¬ span.Covers i := by
  have htiles := tiles_steps rules text
  have hchar : ∀ d, .plain i d ∈ steps rules text → text[i]? = some d := fun d hmem => by
    have := htiles.getElem?_plain hmem
    rwa [flatMap_text_steps, Nat.sub_zero] at this
  constructor
  · refine fun hmem => ⟨hchar c hmem, fun span hspan hcovers => ?_⟩
    obtain ⟨body, hstep⟩ := mem_filterMap_span?_iff.mp hspan
    cases htiles.eq_of_mem hmem hstep ⟨Nat.le_refl i, Nat.lt_succ_self i⟩ hcovers
  · rintro ⟨hi, hnone⟩
    obtain ⟨hlt, -⟩ := List.getElem?_eq_some_iff.mp hi
    obtain ⟨step, hstep, hle, hlt⟩ := htiles.exists_step (Nat.zero_le i) hlt
    rcases step with ⟨span, body⟩ | ⟨position, d⟩
    · exact absurd ⟨hle, hlt⟩ (hnone span (mem_filterMap_span?_iff.mpr ⟨body, hstep⟩))
    · obtain rfl : position = i := Nat.le_antisymm hle (Nat.le_of_lt_succ hlt)
      obtain rfl := Option.some.inj (hi.symm.trans (hchar d hstep))
      exact hstep

/-- Whether a word character is at an offset. -/
def HasWordChar (text : Text) (offset : Nat) : Prop :=
  ∃ c, text[offset]? = some c ∧ isIdentifier c

instance (text : Text) (offset : Nat) : Decidable (HasWordChar text offset) :=
  decidable_of_iff (text[offset]?.any isIdentifier) (Option.any_eq_true _ _)

theorem HasWordChar.lt_length (h : HasWordChar text i) : i < text.length := by
  obtain ⟨c, hi, -⟩ := h
  exact (List.getElem?_eq_some_iff.mp hi).1

/-- Whether a word character is at an offset and no token covers it. -/
def InWord (rules : List Rule) (text : Text) (offset : Nat) : Prop :=
  HasWordChar text offset ∧ ∀ span ∈ spans rules text, ¬ span.Covers offset

instance (rules : List Rule) (text : Text) (offset : Nat) : Decidable (InWord rules text offset) :=
  inferInstanceAs (Decidable (_ ∧ _))

theorem isWordStep_steps_iff : IsWordStep (steps rules text) i ↔ InWord rules text i := by
  constructor
  · rintro ⟨c, hmem, hc⟩
    obtain ⟨hi, hnone⟩ := plain_mem_steps_iff.mp hmem
    exact ⟨⟨c, hi, hc⟩, hnone⟩
  · rintro ⟨⟨c, hi, hc⟩, hnone⟩
    exact ⟨c, plain_mem_steps_iff.mpr ⟨hi, hnone⟩, hc⟩

/-! ## The token or word at an offset -/

/-- The token or word at an offset: the token that covers it, or the longest run of word characters
around it that no token covers. -/
inductive HasToken (rules : List Rule) (text : Text) (offset : Nat) : Token → Prop where
  | token {span : Span} : span ∈ spans rules text → span.Covers offset →
      HasToken rules text offset ⟨span.start, span.stop, some span.rule⟩
  | word {start stop : Nat} : start ≤ offset → offset < stop →
      IsRun (InWord rules text) start stop → HasToken rules text offset ⟨start, stop, none⟩

/-- Whether a token covers an offset or a word character is there. -/
def IsCovered (rules : List Rule) (text : Text) (offset : Nat) : Prop :=
  (∃ span ∈ spans rules text, span.Covers offset) ∨ InWord rules text offset

instance (rules : List Rule) (text : Text) (offset : Nat) :
    Decidable (IsCovered rules text offset) :=
  inferInstanceAs (Decidable (_ ∨ _))

theorem mem_tokens_some {start stop : Nat} {rule : Rule} :
    ⟨start, stop, some rule⟩ ∈ tokens rules text ↔ ⟨start, stop, rule⟩ ∈ spans rules text :=
  mem_tokensOf_some

theorem mem_tokens_none {start stop : Nat} :
    ⟨start, stop, none⟩ ∈ tokens rules text ↔ IsRun (InWord rules text) start stop :=
  (tiles_steps rules text).mem_tokensOf_none.trans
    (IsRun.congr fun _ => isWordStep_steps_iff)

/-- The token or word at an offset is the one of the text that covers it. -/
theorem hasToken_iff :
    HasToken rules text i token ↔ token ∈ tokens rules text ∧ token.Covers i := by
  constructor
  · rintro (⟨hspan, hcovers⟩ | ⟨hstart, hstop, hrun⟩)
    · exact ⟨mem_tokens_some.mpr hspan, hcovers⟩
    · exact ⟨mem_tokens_none.mpr hrun, hstart, hstop⟩
  · rintro ⟨hmem, hcovers⟩
    rcases token with ⟨start, stop, _ | rule⟩
    · exact .word hcovers.1 hcovers.2 (mem_tokens_none.mp hmem)
    · exact .token (mem_tokens_some.mp hmem) hcovers

theorem HasToken.unique {other : Token} (h : HasToken rules text i token)
    (hother : HasToken rules text i other) : other = token := by
  obtain ⟨hmem, hcovers⟩ := hasToken_iff.mp h
  obtain ⟨hmem', hcovers'⟩ := hasToken_iff.mp hother
  exact (tiles_steps rules text).eq_of_covers hmem' hmem hcovers' hcovers

theorem exists_hasToken_iff : (∃ token, HasToken rules text i token) ↔ IsCovered rules text i := by
  constructor
  · rintro ⟨_, ⟨hspan, hcovers⟩ | ⟨hstart, hstop, hrun⟩⟩
    · exact .inl ⟨_, hspan, hcovers⟩
    · exact .inr (hrun.all i hstart hstop)
  · rintro (⟨span, hspan, hcovers⟩ | hword)
    · exact ⟨_, .token hspan hcovers⟩
    · obtain ⟨start, stop, hstart, hstop, hrun⟩ := exists_isRun (fun _ hj => hj.1.lt_length) hword
      exact ⟨_, .word hstart hstop hrun⟩

theorem isCovered_of_covers (hmem : token ∈ tokens rules text) (hcovers : token.Covers i) :
    IsCovered rules text i :=
  exists_hasToken_iff.mp ⟨token, hasToken_iff.mpr ⟨hmem, hcovers⟩⟩

/-! ## Carets -/

theorem find?_eq_some_of_unique {α : Type} {p : α → Bool} {a : α} {all : List α} (hmem : a ∈ all)
    (ha : p a) (h : ∀ b ∈ all, p b → b = a) : all.find? p = some a := by
  cases hfind : all.find? p with
  | none => exact absurd ha (List.find?_eq_none.mp hfind a hmem)
  | some b => rw [h b (List.mem_of_find?_eq_some hfind) (List.find?_some hfind)]

theorem Token.touches_iff : token.touches caret ↔ ∃ i, i + 1 = caret ∧ token.Covers i := by
  rw [touches, Bool.and_eq_true, decide_eq_true_eq, decide_eq_true_eq]
  constructor
  · rintro ⟨hstart, hstop⟩
    exact ⟨caret - 1, by omega, by omega, by omega⟩
  · rintro ⟨i, rfl, hstart, hstop⟩
    omega

/-- A caret finds the token or word of the character before it. -/
theorem tokenAt_of_before (h : HasToken rules text i token) :
    tokenAt rules text (i + 1) = some token := by
  obtain ⟨hmem, hcovers⟩ := hasToken_iff.mp h
  have hfind : (tokens rules text).find? (·.touches (i + 1)) = some token := by
    refine find?_eq_some_of_unique hmem (Token.touches_iff.mpr ⟨i, rfl, hcovers⟩)
      fun other hother htouches => ?_
    obtain ⟨j, hj, hcovers'⟩ := Token.touches_iff.mp htouches
    obtain rfl := Nat.succ.inj hj
    exact h.unique (hasToken_iff.mpr ⟨hother, hcovers'⟩)
  rw [tokenAt, hfind, Option.some_or]

/-- Behind a character without a token or word, a caret finds only what starts there. -/
theorem tokenAt_eq_find? (hbefore : ∀ i, i + 1 = caret → ¬ IsCovered rules text i) :
    tokenAt rules text caret = (tokens rules text).find? (·.start = caret) := by
  have hnone : (tokens rules text).find? (·.touches caret) = none := by
    rw [List.find?_eq_none]
    intro other hother htouches
    obtain ⟨i, hi, hcovers⟩ := Token.touches_iff.mp htouches
    exact hbefore i hi (isCovered_of_covers hother hcovers)
  rw [tokenAt, hnone, Option.none_or]

theorem covers_start (hmem : token ∈ tokens rules text) : token.Covers token.start :=
  ⟨Nat.le_refl _, ((tiles_steps rules text).tokensOf_bounds hmem).2.1⟩

/-- Behind such a character, a caret finds the token or word of the character after it, which then
starts at the caret. -/
theorem tokenAt_of_after (hbefore : ∀ i, i + 1 = caret → ¬ IsCovered rules text i)
    (h : HasToken rules text caret token) :
    tokenAt rules text caret = some token ∧ token.start = caret := by
  obtain ⟨hmem, hcovers⟩ := hasToken_iff.mp h
  have hstart : token.start = caret := by
    apply Classical.byContradiction
    intro hne
    obtain ⟨hle, hlt⟩ := hcovers
    have hcovers' : token.Covers (caret - 1) := ⟨by omega, by omega⟩
    exact hbefore (caret - 1) (by omega) (isCovered_of_covers hmem hcovers')
  refine ⟨?_, hstart⟩
  rw [tokenAt_eq_find? hbefore]
  refine find?_eq_some_of_unique hmem (decide_eq_true hstart) fun other hother heq => ?_
  have hcovers' := covers_start hother
  rw [of_decide_eq_true heq] at hcovers'
  exact h.unique (hasToken_iff.mpr ⟨hother, hcovers'⟩)

/-- Between two characters without a token or word, a caret finds nothing. -/
theorem tokenAt_of_none (hbefore : ∀ i, i + 1 = caret → ¬ IsCovered rules text i)
    (hafter : ¬ IsCovered rules text caret) : tokenAt rules text caret = none := by
  rw [tokenAt_eq_find? hbefore, List.find?_eq_none]
  intro other hother heq
  have hcovers := covers_start hother
  rw [of_decide_eq_true heq] at hcovers
  exact hafter (isCovered_of_covers hother hcovers)

/-- What a caret finds is a part of the text, and is a token if it has a rule. -/
theorem bounds_of_tokenAt (h : tokenAt rules text caret = some token) :
    token.start < token.stop ∧ token.stop ≤ text.length ∧
      ∀ rule, token.rule = some rule → ⟨token.start, token.stop, rule⟩ ∈ spans rules text := by
  have hmem := mem_tokens_of_tokenAt h
  obtain ⟨-, hpos, hstop⟩ := (tiles_steps rules text).tokensOf_bounds hmem
  refine ⟨hpos, hstop, fun rule hrule => ?_⟩
  rcases token with ⟨start, stop, _ | other⟩ <;> cases hrule
  exact mem_tokens_some.mp hmem

/-- **A caret is answered by the character before it**, with the token that covers the character or
the longest run of word characters around it. Only if there is none, the character after the caret
answers, and its token or word starts at the caret; if there is none either, nothing is found. What
is found is a part of the text that is not empty, and a token if it has a rule. -/
theorem tokenAt_answers (rules : List Rule) (text : Text) (caret : Nat) :
    (∀ i, i + 1 = caret → IsCovered rules text i →
      ∃ token, HasToken rules text i token ∧ tokenAt rules text caret = some token) ∧
    ((∀ i, i + 1 = caret → ¬ IsCovered rules text i) → IsCovered rules text caret →
      ∃ token, HasToken rules text caret token ∧ token.start = caret ∧
        tokenAt rules text caret = some token) ∧
    ((∀ i, i + 1 = caret → ¬ IsCovered rules text i) → ¬ IsCovered rules text caret →
      tokenAt rules text caret = none) ∧
    (∀ token, tokenAt rules text caret = some token →
      token.start < token.stop ∧ token.stop ≤ text.length ∧
        text.take token.start ++ token.text text ++ text.drop token.stop = text ∧
        (token.text text).length = token.stop - token.start ∧
        ∀ rule, token.rule = some rule → ⟨token.start, token.stop, rule⟩ ∈ spans rules text) ∧
    (∀ i token other, HasToken rules text i token → HasToken rules text i other →
      other = token) ∧
    gather (steps rules text) = tokens rules text := by
  refine ⟨?before, ?after, tokenAt_of_none, ?bounds, fun i token other h => h.unique,
    gather_steps rules text⟩
  case before =>
    rintro i rfl hcovered
    obtain ⟨token, htoken⟩ := exists_hasToken_iff.mpr hcovered
    exact ⟨token, htoken, tokenAt_of_before htoken⟩
  case after =>
    intro hbefore hcovered
    obtain ⟨token, htoken⟩ := exists_hasToken_iff.mpr hcovered
    obtain ⟨hfind, hstart⟩ := tokenAt_of_after hbefore htoken
    exact ⟨token, htoken, hstart, hfind⟩
  case bounds =>
    intro token hfind
    obtain ⟨hlt, hle, hrule⟩ := bounds_of_tokenAt hfind
    refine ⟨hlt, hle, Text.take_slice_drop (Nat.le_of_lt hlt), ?_, hrule⟩
    rw [Token.text, Text.slice, List.length_take, List.length_drop]
    omega

/-- A caret between a word and a point, one between blanks, one before a keyword, and one past the end
of the text. -/
theorem tokenAt_answers_blanks :
    (∃ token, HasToken Rule.priority "ab.  if".toList 1 token ∧
      tokenAt Rule.priority "ab.  if".toList 2 = some token) ∧
    tokenAt Rule.priority "ab.  if".toList 4 = none ∧
    (∃ token, HasToken Rule.priority "ab.  if".toList 5 token ∧ token.start = 5 ∧
      tokenAt Rule.priority "ab.  if".toList 5 = some token) ∧
    tokenAt Rule.priority "ab.  if".toList 9 = none := by
  have hanswers := tokenAt_answers Rule.priority "ab.  if".toList
  have hbehind : ∀ n, ¬ IsCovered Rule.priority "ab.  if".toList n →
      ∀ i, i + 1 = n + 1 → ¬ IsCovered Rule.priority "ab.  if".toList i := by
    rintro n hn i hi
    rwa [Nat.succ.inj hi]
  exact ⟨(hanswers 2).1 1 rfl (by decide), (hanswers 4).2.2.1 (hbehind 3 (by decide)) (by decide),
    (hanswers 5).2.1 (hbehind 4 (by decide)) (by decide),
    (hanswers 9).2.2.1 (hbehind 8 (by decide)) (by decide)⟩

end Highlighter
