import Highlighter.Indentation
import Highlighter.Proofs.Identifiers
import Highlighter.Proofs.Interior
import Highlighter.Proofs.Slices

/-!
# Braces

No operator of more than one character has a brace in it, and no other rule starts with one. So a
brace is a token by itself wherever no token goes over its start, whatever comes after it, and the
depth of a text changes at these braces only.

* `Rule.firstMatch?_of_isBrace`: what the first rule finds where a brace follows.
* `HasBrace`, `hasBrace_iff`: a brace that is an operator is one that no token goes over.
* `hasBrace_append`: whether it is one depends on the text up to it alone.
* `indentLevel_succ`: the depth at a caret is settled one character after the other.
* `indentLevel_append_congr`: it does not depend on what comes after the caret.
-/

namespace Highlighter

variable {rules : List Rule} {text : Text} {brace c : Char} {i : Nat}

/-- Whether a character is a brace. -/
def isBrace (c : Char) : Bool := c = '{' || c = '}'

theorem isBrace_iff : isBrace c ↔ c = '{' ∨ c = '}' := by simp [isBrace]

theorem isSymbol_of_isBrace (h : isBrace c) : isSymbol c := by
  rcases isBrace_iff.mp h with rfl | rfl <;> decide

theorem not_isLower_of_isBrace (h : isBrace c) : c.isLower = false := by
  rcases isBrace_iff.mp h with rfl | rfl <;> decide

theorem not_isNumeric_of_isBrace (h : isBrace c) : Rule.isNumeric c = false := by
  rcases isBrace_iff.mp h with rfl | rfl <;> decide

/-- An operator with a brace in it is that brace alone. -/
theorem operators_brace {word : Text} (hword : word ∈ operators) (hc : c ∈ word)
    (hbrace : isBrace c) : word = [c] := by
  have hall : operators.all fun word => word.all fun c => !isBrace c || word == [c] := by decide
  have hall := List.all_eq_true.mp (List.all_eq_true.mp hall word hword) c hc
  simpa [hbrace] using hall

/-! ## One place -/

namespace Rule

theorem not_couldStart_of_isBrace (hbrace : isBrace c) {rule : Rule} (hrule : rule ≠ symbol) :
    rule.couldStart c = false := by
  rcases isBrace_iff.mp hbrace with rfl | rfl <;> cases rule <;>
    first | rfl | exact absurd rfl hrule

/-- A brace that follows is an operator, and the operator ends behind it. -/
theorem match?_symbol_of_isBrace (hbrace : isBrace c) (previous : Option Char) (rest : Text) :
    symbol.match? previous (c :: rest) = some 1 := by
  refine match?_symbol_eq_some_iff.mpr
    ⟨⟨[c], singleton_mem_operators (isSymbol_of_isBrace hbrace), ⟨rest, rfl⟩, rfl⟩, ?_⟩
  intro word hword hpre
  obtain ⟨hne, -⟩ := operators_symbol word hword
  rcases word with _ | ⟨d, tail⟩
  · exact absurd rfl hne
  · obtain ⟨rfl, -⟩ := List.cons_prefix_cons.mp hpre
    rw [operators_brace hword List.mem_cons_self hbrace]
    exact Nat.le_refl 1

/-- Where a brace follows, the rule for operators alone decides, and finds it. -/
theorem firstMatch?_of_isBrace (hbrace : isBrace c) (rules : List Rule) (previous : Option Char)
    (rest : Text) :
    firstMatch? rules previous (c :: rest) = if symbol ∈ rules then some (symbol, 1) else none := by
  rw [firstMatch?_of_sole (fun _ => not_couldStart_of_isBrace hbrace),
    match?_symbol_of_isBrace hbrace, Option.map_some]

end Rule

/-! ## Braces that are operators -/

/-- Whether the character at an offset is an operator by itself, and the brace asked for. -/
def HasBrace (rules : List Rule) (text : Text) (brace : Char) (offset : Nat) : Prop :=
  text[offset]? = some brace ∧ ⟨offset, offset + 1, .symbol⟩ ∈ spans rules text

instance (rules : List Rule) (text : Text) (brace : Char) (offset : Nat) :
    Decidable (HasBrace rules text brace offset) :=
  inferInstanceAs (Decidable (_ ∧ _))

/-- **A brace is an operator where no token goes over it**, if operators are among the tokens. -/
theorem hasBrace_iff (hbrace : isBrace brace) :
    HasBrace rules text brace i ↔
      text[i]? = some brace ∧ .symbol ∈ rules ∧ ∀ span ∈ spans rules text, ¬ span.Crosses i := by
  refine and_congr_right fun hi => ?_
  rw [mem_spans_iff, Text.drop_eq_cons hi, Rule.firstMatch?_of_isBrace hbrace]
  refine and_congr_left fun _ => ?_
  split <;> simp [*]

/-- Whether a token goes over an offset depends on the text up to the character there alone, if that
is no lowercase letter. -/
theorem not_crosses_of_append {before after other : Text} (hc : c.isLower = false)
    (h : ∀ span ∈ spans rules (before ++ c :: after), ¬ span.Crosses before.length) :
    ∀ span ∈ spans rules (before ++ c :: other), ¬ span.Crosses before.length := by
  have hcross : ∀ span ∈ spansFrom rules none 0 (before ++ c :: after),
      ¬ span.Crosses (0 + before.length) := by
    rwa [Nat.zero_add]
  obtain ⟨done, htiles, -, hsteps⟩ :=
    stepsFrom_append (interchangeable_cons hc rules after other) hcross
  rw [Nat.zero_add] at htiles hsteps
  intro span hspan
  rw [spans, steps, hsteps, List.filterMap_append, List.mem_append] at hspan
  rintro ⟨hstart, hstop⟩
  rcases hspan with hdone | hrest
  · exact Nat.not_lt.mpr (htiles.span_bounds hdone).2.2 hstop
  · exact Nat.not_lt.mpr (spansFrom_bounds hrest).1 hstart

/-- **The text up to a brace settles whether it is an operator.** -/
theorem hasBrace_append {before : Text} (hbrace : isBrace brace) (hi : i < before.length)
    (first second : Text) (h : HasBrace rules (before ++ first) brace i) :
    HasBrace rules (before ++ second) brace i := by
  obtain ⟨hchar, hrules, hcross⟩ := (hasBrace_iff hbrace).mp h
  rw [List.getElem?_append_left hi] at hchar
  refine (hasBrace_iff hbrace).mpr ⟨by rwa [List.getElem?_append_left hi], hrules, ?_⟩
  obtain ⟨head, tail, rfl, rfl⟩ : ∃ head tail, before = head ++ brace :: tail ∧ head.length = i :=
    ⟨before.take i, before.drop (i + 1), by
      rw [← Text.drop_eq_cons hchar, List.take_append_drop],
      List.length_take_of_le (Nat.le_of_lt hi)⟩
  rw [List.append_assoc, List.cons_append] at hcross ⊢
  exact not_crosses_of_append (not_isLower_of_isBrace hbrace) hcross

/-! ## The depth, one step after the other -/

/-- Whether a step is an operator that consists of one given character. -/
def Step.IsOperator (brace : Char) : Step → Prop
  | token span text => text = [brace] ∧ span.tokenType = .operator
  | plain .. => False

instance (brace : Char) : (step : Step) → Decidable (step.IsOperator brace)
  | .token .. => inferInstanceAs (Decidable (_ ∧ _))
  | .plain .. => .isFalse id

theorem Step.nest_eq (depth : Nat) (step : Step) :
    step.nest depth =
      if step.IsOperator '{' then depth + 1
      else if step.IsOperator '}' then depth - 1
      else depth := by
  rcases step with ⟨span, body⟩ | _
  · by_cases hopen : body = ['{']
    · simp [nest, IsOperator, hopen]
    by_cases hclose : body = ['}']
    · simp [nest, IsOperator, hclose]
    · simp [nest, IsOperator, hopen, hclose]
  · rfl

theorem Rule.tokenType_eq_operator_iff {rule : Rule} :
    rule.tokenType = .operator ↔ rule = .symbol := by cases rule <;> decide

/-- Two tokens that start at the same offset are one. -/
theorem span_eq_of_start {a b : Span} (ha : a ∈ spans rules text) (hb : b ∈ spans rules text)
    (hstart : a.start = b.start) : a = b := by
  obtain ⟨start, stop, rule⟩ := a
  obtain ⟨_, stop', rule'⟩ := b
  obtain rfl : start = _ := hstart
  obtain ⟨n, -, rfl, hfirst⟩ := width_of_mem_spans ha
  obtain ⟨m, -, rfl, hfirst'⟩ := width_of_mem_spans hb
  obtain ⟨rfl, rfl⟩ := Prod.mk.inj (Option.some.inj (hfirst.symm.trans hfirst'))
  rfl

/-- The steps that are braces are where the text has braces. -/
theorem isOperator_iff {step : Step} (hstep : step ∈ steps rules text) :
    step.IsOperator brace ↔ HasBrace rules text brace step.start := by
  rcases step with ⟨⟨start, stop, rule⟩, body⟩ | ⟨position, d⟩
  · have hspan : ⟨start, stop, rule⟩ ∈ spans rules text := mem_filterMap_span?_iff.mpr ⟨body, hstep⟩
    have hlt : start < stop := (spansFrom_bounds hspan).2.1
    have hslice : text.slice? start stop = some body := slice?_of_mem_steps hstep
    have hle : stop ≤ 0 + text.length := (spansFrom_bounds hspan).2.2
    rw [Nat.zero_add] at hle
    rw [Text.slice?_eq (Nat.le_of_lt hlt) hle, Option.some.injEq] at hslice
    constructor
    · rintro ⟨rfl, htype⟩
      obtain rfl := Rule.tokenType_eq_operator_iff.mp htype
      obtain rfl : stop = start + 1 := by
        have hlen := congrArg List.length hslice
        rw [Text.slice, List.length_take, List.length_drop, List.length_singleton] at hlen
        omega
      have hhead := congrArg List.head? hslice
      rw [Text.slice_add, List.head?_take, if_neg Nat.one_ne_zero, List.head?_drop] at hhead
      exact ⟨hhead, hspan⟩
    · rintro ⟨hchar, hmem⟩
      have hchar : text[start]? = some brace := hchar
      obtain ⟨-, rfl, rfl⟩ : start = start ∧ stop = start + 1 ∧ rule = .symbol :=
        Span.mk.inj (span_eq_of_start hspan hmem rfl)
      refine ⟨?_, rfl⟩
      rw [← hslice, Text.slice_add]
      exact congrArg (List.take 1) (Text.drop_eq_cons hchar)
  · refine iff_of_false id fun h => ?_
    exact (plain_mem_steps_iff.mp hstep).2 _ h.2 ⟨Nat.le_refl _, Nat.lt_succ_self _⟩

/-- The depth behind an offset, from the depth before it. -/
def nestAt (rules : List Rule) (text : Text) (depth offset : Nat) : Nat :=
  if HasBrace rules text '{' offset then depth + 1
  else if HasBrace rules text '}' offset then depth - 1
  else depth

theorem nest_of_mem_steps {step : Step} (hstep : step ∈ steps rules text) (depth : Nat) :
    step.nest depth = nestAt rules text depth step.start := by
  rw [Step.nest_eq, nestAt, if_congr (isOperator_iff hstep) rfl
    (if_congr (isOperator_iff hstep) rfl rfl)]

/-- The steps that begin before an offset, and the one that begins there. -/
theorem Tiles.takeWhile_start_lt_succ {start stop : Nat} {all : List Step}
    (h : Tiles start all stop) (i : Nat) :
    all.takeWhile (·.start < i + 1) =
      all.takeWhile (·.start < i) ++ (all.find? (·.start = i)).toList := by
  induction all generalizing start with
  | nil => rfl
  | cons first rest ih =>
    have hfirst := h.bounds List.mem_cons_self
    have hlater : ∀ step ∈ rest, first.start < step.start := fun step hstep =>
      Nat.lt_of_lt_of_le hfirst.2.1 (h.2.2.2.bounds hstep).1
    rcases Nat.lt_trichotomy first.start i with hlt | rfl | hgt
    · simp only [List.takeWhile_cons, List.find?_cons, hlt, Nat.lt_succ_of_lt hlt, Nat.ne_of_lt hlt,
        decide_true, decide_false, if_true, ih h.2.2.2, List.cons_append]
    · have hnil : rest.takeWhile (·.start < first.start + 1) = [] := by
        rcases rest with _ | ⟨second, rest⟩
        · rfl
        · have hsecond : ¬ second.start < first.start + 1 :=
            Nat.not_lt.mpr (hlater second List.mem_cons_self)
          simp only [List.takeWhile_cons, hsecond, decide_false, Bool.false_eq_true, if_false]
      simp only [List.takeWhile_cons, List.find?_cons, Nat.lt_irrefl, Nat.lt_succ_self, hnil,
        decide_true, decide_false, Bool.false_eq_true, if_true, if_false]
      rfl
    · have hnone : (first :: rest).find? (·.start = i) = none := by
        rw [List.find?_eq_none]
        intro step hstep
        rw [decide_eq_true_eq]
        rcases List.mem_cons.mp hstep with rfl | hmem
        · exact Nat.ne_of_gt hgt
        · exact Nat.ne_of_gt (Nat.lt_trans hgt (hlater step hmem))
      have hnot : ¬ first.start < i + 1 := Nat.not_lt.mpr hgt
      have hnot' : ¬ first.start < i := Nat.not_lt.mpr (Nat.le_of_lt hgt)
      simp only [hnone, List.takeWhile_cons, hnot, hnot', decide_false, Bool.false_eq_true, if_false]
      rfl

/-- **The depth is settled one character after the other.** -/
theorem indentLevel_succ (rules : List Rule) (text : Text) (caret : Nat) :
    indentLevel rules text (caret + 1) =
      nestAt rules text (indentLevel rules text caret) caret := by
  rw [indentLevel, (tiles_steps rules text).takeWhile_start_lt_succ, List.foldl_append,
    ← indentLevel]
  cases hfind : (steps rules text).find? (·.start = caret) with
  | some step =>
    have hstart : step.start = caret := by simpa using List.find?_some hfind
    rw [← hstart]
    exact nest_of_mem_steps (List.mem_of_find?_eq_some hfind) _
  | none =>
    have hnot : ∀ brace, ¬ HasBrace rules text brace caret := by
      rintro brace ⟨-, hmem⟩
      obtain ⟨body, hstep⟩ := mem_filterMap_span?_iff.mp hmem
      exact List.find?_eq_none.mp hfind _ hstep (decide_eq_true rfl)
    rw [nestAt, if_neg (hnot '{'), if_neg (hnot '}')]
    rfl

/-! ## The depth and what it depends on -/

@[simp] theorem indentLevel_zero (rules : List Rule) (text : Text) :
    indentLevel rules text 0 = 0 := by
  have hnil : (steps rules text).takeWhile (·.start < 0) = [] := by
    cases steps rules text <;> simp
  rw [indentLevel, hnil, List.foldl_nil]

/-- The depth up to the end of a text does not depend on what comes after it. -/
theorem indentLevel_append_congr_of_le {before : Text} {caret : Nat}
    (hcaret : caret ≤ before.length) (first second : Text) :
    indentLevel rules (before ++ first) caret = indentLevel rules (before ++ second) caret := by
  induction caret with
  | zero => rw [indentLevel_zero, indentLevel_zero]
  | succ caret ih =>
    have hiff : ∀ brace, isBrace brace →
        (HasBrace rules (before ++ first) brace caret ↔
          HasBrace rules (before ++ second) brace caret) := fun brace hbrace =>
      ⟨hasBrace_append hbrace hcaret first second, hasBrace_append hbrace hcaret second first⟩
    rw [indentLevel_succ, indentLevel_succ, ih (Nat.le_of_succ_le hcaret), nestAt, nestAt,
      if_congr (hiff '{' rfl) rfl (if_congr (hiff '}' rfl) rfl rfl)]

/-- Between two offsets without a brace between them the depth stays. -/
theorem indentLevel_add {start n : Nat}
    (h : ∀ i, start ≤ i → i < start + n → ∀ brace ∈ text[i]?, ¬ isBrace brace) :
    indentLevel rules text (start + n) = indentLevel rules text start := by
  induction n with
  | zero => rfl
  | succ n ih =>
    have hnot : ∀ brace, isBrace brace → ¬ HasBrace rules text brace (start + n) :=
      fun brace hbrace hhas => h (start + n) (Nat.le_add_right start n)
        (Nat.lt_succ_self _) brace hhas.1 hbrace
    rw [← Nat.add_assoc, indentLevel_succ, nestAt, if_neg (hnot '{' rfl), if_neg (hnot '}' rfl)]
    exact ih fun i hstart hi => h i hstart (Nat.lt_succ_of_lt hi)

/-- **The depth at a caret does not depend on what comes after it**, for all lists of rules,
although the tokens before the caret may. -/
theorem indentLevel_append_congr (rules : List Rule) (before first second : Text) :
    indentLevel rules (before ++ first) before.length =
      indentLevel rules (before ++ second) before.length :=
  indentLevel_append_congr_of_le (Nat.le_refl _) first second

end Highlighter
