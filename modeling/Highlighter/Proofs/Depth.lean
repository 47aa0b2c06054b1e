import Mathlib.Order.Bounds.Defs
import Highlighter.Proofs.Braces

/-!
# The depth as a number of braces

A brace that closes nothing is ignored, so the depth is not simply the number of braces opened less
the number of braces closed. It is the greatest such difference over all parts of the text that end
at the caret: the part behind the last brace that closed nothing.

* `IsCode`: no string, character literal or comment is over an offset.
* `hasBrace_iff_isCode`: the braces that are operators are those in code.
* `surplus`, `surplus_succ`: how many more braces are opened than closed between two offsets.
* `isGreatest_surplus`: the depth is the greatest surplus, for all rules with operators.
* `indentLevel_isGreatest`: so it is in the order of priority, at every caret.
-/

namespace Highlighter

variable {rules : List Rule} {text : Text} {brace : Char} {i start stop : Nat}

/-! ## Code -/

/-- Whether the character at an offset is code: no string, character literal or comment covers
it. -/
def IsCode (rules : List Rule) (text : Text) (offset : Nat) : Prop :=
  ∀ span ∈ spans rules text, span.Covers offset →
    span.tokenType ≠ .string ∧ span.tokenType ≠ .char ∧ span.tokenType ≠ .comment

instance (rules : List Rule) (text : Text) (offset : Nat) : Decidable (IsCode rules text offset) :=
  inferInstanceAs (Decidable (∀ _ ∈ _, _ → _))

/-- A token that goes over a brace is a string, a character literal or a comment. -/
theorem not_isCode_of_crosses (hbrace : isBrace brace) (hi : text[i]? = some brace) {span : Span}
    (hspan : span ∈ spans rules text) (hcrosses : span.Crosses i) : ¬ IsCode rules text i := by
  intro hcode
  have hcovers : span.Covers i := ⟨Nat.le_of_lt hcrosses.1, hcrosses.2⟩
  have hadmits := admits_of_covers hspan hi hcovers
  have htype := hcode span hspan hcovers
  obtain ⟨first, last, rule⟩ := span
  cases rule with
  | keyword =>
    have hlower : brace.isLower := hadmits
    rw [not_isLower_of_isBrace hbrace] at hlower
    cases hlower
  | number =>
    have hnumeric : Rule.isNumeric brace := hadmits
    rw [not_isNumeric_of_isBrace hbrace] at hnumeric
    cases hnumeric
  | symbol =>
    -- An operator with a brace in it has no room for another character before the brace.
    obtain ⟨n, -, rfl, hfirst⟩ := width_of_mem_spans hspan
    have hmatch := (Rule.of_firstMatch?_eq_some hfirst).2
    obtain ⟨hle, hword, -⟩ := Rule.match?_symbol_drop.mp hmatch
    have hlen := congrArg List.length
      (operators_brace hword (Text.mem_slice hi hcovers.1 hcovers.2) hbrace)
    rw [Text.slice_add, List.length_take, List.length_drop, List.length_singleton] at hlen
    have hinner : first < i ∧ i < first + n := hcrosses
    omega
  | lineComment | blockComment => exact htype.2.2 rfl
  | verbatimString | quotedString => exact htype.1 rfl
  | charLiteral => exact htype.2.1 rfl

/-- **The braces in code** are those that are operators, if operators are among the tokens. -/
theorem hasBrace_iff_isCode (hrules : .symbol ∈ rules) (hbrace : isBrace brace) :
    HasBrace rules text brace i ↔ text[i]? = some brace ∧ IsCode rules text i := by
  constructor
  · intro h
    obtain ⟨hi, -, hcross⟩ := (hasBrace_iff hbrace).mp h
    refine ⟨hi, fun span hspan hcovers => ?_⟩
    have hstart : span.start = i :=
      Nat.le_antisymm hcovers.1 (Nat.not_lt.mp fun hlt => hcross span hspan ⟨hlt, hcovers.2⟩)
    rw [span_eq_of_start hspan h.2 hstart]
    exact ⟨TokenType.noConfusion, TokenType.noConfusion, TokenType.noConfusion⟩
  · rintro ⟨hi, hcode⟩
    exact (hasBrace_iff hbrace).mpr ⟨hi, hrules, fun span hspan hcrosses =>
      not_isCode_of_crosses hbrace hi hspan hcrosses hcode⟩

/-! ## Counting braces -/

/-- How often a character stands in the code of a text between two offsets. -/
def codeCount (rules : List Rule) (text : Text) (c : Char) (start stop : Nat) : Nat :=
  (List.range' start (stop - start)).countP fun i => text[i]? = some c ∧ IsCode rules text i

/-- How many more braces the code of a text opens than it closes between two offsets. -/
def surplus (rules : List Rule) (text : Text) (start stop : Nat) : Int :=
  codeCount rules text '{' start stop - codeCount rules text '}' start stop

theorem codeCount_succ (h : start ≤ stop) (c : Char) :
    codeCount rules text c start (stop + 1) =
      codeCount rules text c start stop +
        if text[stop]? = some c ∧ IsCode rules text stop then 1 else 0 := by
  rw [codeCount, codeCount, Nat.succ_sub h, List.range'_1_concat, Nat.add_sub_cancel' h,
    List.countP_append, List.countP_singleton]
  simp only [decide_eq_true_eq]

theorem surplus_self (rules : List Rule) (text : Text) (offset : Nat) :
    surplus rules text offset offset = 0 := by
  simp [surplus, codeCount]

/-- What the brace at an offset adds to the surplus, if one is there. -/
def braceStep (rules : List Rule) (text : Text) (offset : Nat) : Int :=
  if HasBrace rules text '{' offset then 1
  else if HasBrace rules text '}' offset then -1
  else 0

theorem surplus_succ (hrules : .symbol ∈ rules) (h : start ≤ stop) :
    surplus rules text start (stop + 1) =
      surplus rules text start stop + braceStep rules text stop := by
  rw [surplus, codeCount_succ h, codeCount_succ h, surplus, braceStep,
    if_congr (hasBrace_iff_isCode hrules rfl).symm rfl rfl,
    if_congr (hasBrace_iff_isCode hrules rfl).symm rfl rfl]
  by_cases hopen : HasBrace rules text '{' stop
  · have hclose : ¬ HasBrace rules text '}' stop := fun h => by
      have heq := hopen.1.symm.trans h.1
      simp at heq
    rw [if_pos hopen, if_pos hopen, if_neg hclose]
    omega
  · rw [if_neg hopen, if_neg hopen]
    split <;> omega

/-! ## The greatest surplus -/

/-- The depth follows the surplus, but stays at zero where that would go below. -/
theorem nestAt_eq_max (rules : List Rule) (text : Text) (depth offset : Nat) :
    (nestAt rules text depth offset : Int) = max 0 (depth + braceStep rules text offset) := by
  unfold nestAt braceStep
  split
  · omega
  · split <;> omega

/-- **The depth is the greatest surplus** of all parts of the text that end there. -/
theorem isGreatest_surplus (hrules : .symbol ∈ rules) (text : Text) (stop : Nat) :
    IsGreatest {n | ∃ start ≤ stop, n = surplus rules text start stop}
      (indentLevel rules text stop : Int) := by
  induction stop with
  | zero =>
    rw [indentLevel_zero]
    refine ⟨⟨0, Nat.le_refl 0, (surplus_self rules text 0).symm⟩, ?_⟩
    rintro n ⟨start, hstart, rfl⟩
    rw [Nat.le_zero.mp hstart, surplus_self]
    exact Int.le_refl 0
  | succ stop ih =>
    obtain ⟨⟨first, hfirst, hlevel⟩, hupper⟩ := ih
    rw [indentLevel_succ, nestAt_eq_max]
    constructor
    · -- The part that was best before goes on being so, unless the empty part is better now.
      rcases Int.le_total 0 (indentLevel rules text stop + braceStep rules text stop) with hle | hle
      · refine ⟨first, Nat.le_succ_of_le hfirst, ?_⟩
        rw [Int.max_eq_right hle, surplus_succ hrules hfirst, ← hlevel]
      · refine ⟨stop + 1, Nat.le_refl _, ?_⟩
        rw [Int.max_eq_left hle, surplus_self]
    · rintro n ⟨start, hstart, rfl⟩
      rcases Nat.lt_or_eq_of_le hstart with hlt | rfl
      · have hle := Nat.le_of_lt_succ hlt
        rw [surplus_succ hrules hle]
        have hbound := hupper ⟨start, hle, rfl⟩
        exact Int.le_trans (Int.add_le_add_right hbound _) (Int.le_max_right _ _)
      · rw [surplus_self]
        exact Int.le_max_left _ _

/-- A caret behind the end of a text is at its end. -/
theorem indentLevel_min (rules : List Rule) (text : Text) (caret : Nat) :
    indentLevel rules text caret = indentLevel rules text (min caret text.length) := by
  rcases Nat.le_total caret text.length with hle | hle
  · rw [Nat.min_eq_left hle]
  · obtain ⟨n, rfl⟩ := Nat.exists_eq_add_of_le hle
    rw [Nat.min_eq_right hle]
    refine indentLevel_add fun i hi _ brace hbrace => ?_
    rw [List.getElem?_eq_none hi] at hbrace
    cases hbrace

/-- **The depth at a caret**, in the order of priority, is the greatest surplus of opening over
closing braces that a part of the text before the caret has, where braces in strings, character
literals and comments do not count and a part ends at the caret. -/
theorem indentLevel_isGreatest (text : Text) (caret : Nat) :
    IsGreatest
      {n | ∃ start ≤ min caret text.length,
        n = surplus Rule.priority text start (min caret text.length)}
      (indentLevel Rule.priority text caret : Int) := by
  rw [indentLevel_min]
  exact isGreatest_surplus (by decide) text _

/-- The first brace closes nothing, and the one in the string is no code. -/
example : indentLevel Rule.priority "\x7d\x7b\"\x7b\"\x7bx".toList 7 = 2 ∧
    surplus Rule.priority "\x7d\x7b\"\x7b\"\x7bx".toList 0 6 = 1 ∧
    surplus Rule.priority "\x7d\x7b\"\x7b\"\x7bx".toList 1 6 = 2 := by decide

end Highlighter
