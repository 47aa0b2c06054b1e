import Highlighter.Proofs.Occurrence

/-!
# Operators

An operator is the longest one that fits, and every symbol of a text belongs to some token: it can
fail to be an operator only because a comment or a number takes it.

* `Rule.match?_symbol_drop`: an operator at an offset is the longest one that stands there.
* `Rule.probeBy`, `spansBy`: a scan in which runs of operator characters go on by another test.
* `Rule.probeBy_eq`: every test that lets symbols go on leads to the same tokens; what is read past
  the operator is given back.
* `mem_spans_symbol_iff`: the operators among the tokens, and what becomes of all other symbols.
-/

namespace Highlighter

variable {rules : List Rule} {text : Text} {start n : Nat} {previous : Option Char}

namespace Rule

/-! ## One place -/

theorem match?_symbol_eq_some_iff :
    symbol.match? previous text = some n ↔ IsLongest operators (· <+: text) (some n) := by
  have hlongest := match?_symbol previous text
  constructor
  · intro h
    rwa [h] at hlongest
  · exact hlongest.eq

/-- An operator at an offset is the longest word of the table that the text has there. -/
theorem match?_symbol_drop :
    symbol.match? previous (text.drop start) = some n ↔
      start + n ≤ text.length ∧ text.slice start (start + n) ∈ operators ∧
        ∀ word ∈ operators, word <+: text.drop start → word.length ≤ n := by
  rw [match?_symbol_eq_some_iff, Text.slice_add]
  constructor
  · rintro ⟨⟨word, hword, hpre, rfl⟩, hmax⟩
    have hpos := List.length_pos_iff.mpr (operators_symbol word hword).1
    have hle := hpre.length_le
    rw [List.length_drop] at hle
    rw [← List.prefix_iff_eq_take.mp hpre]
    exact ⟨by omega, hword, hmax⟩
  · rintro ⟨hle, hword, hmax⟩
    refine ⟨⟨_, hword, List.take_prefix n _, ?_⟩, hmax⟩
    rw [List.length_take, List.length_drop]
    omega

/-- In the order of priority, an operator is found unless a comment or a number begins there. -/
theorem firstMatch?_priority_symbol_iff :
    firstMatch? priority previous text = some (symbol, n) ↔
      symbol.match? previous text = some n ∧ ¬ ['/', '/'] <+: text ∧ ¬ ['/', '*'] <+: text ∧
        ¬ (text.head? = some '.' ∧ atBoundary previous) := by
  rw [firstMatch?_symbol_iff_of_after (by decide) (by decide)]
  refine and_congr_right fun h => ?_
  exact forall_contenders_iff (isSome_match?_symbol.mp (Option.isSome_iff_exists.mpr ⟨n, h⟩))

/-! ## Other tests for going on -/

/-- The rule for operators, where a run may go on with the characters that satisfy `continues`. -/
def probeRun (continues : Char → Bool) (text : Text) : Probe :=
  let found := narrow operators continues text
  if found.longest.isSome then .accept found.width else .reject found.width

/-- Tries a rule, with another test for the characters that a run of operators may go on with. -/
def probeBy (continues : Char → Bool) (rule : Rule) (previous : Option Char) (text : Text) :
    Probe :=
  match rule with
  | symbol => probeRun continues text
  | rule => rule.probe previous text

/-- The width of the token that a rule finds when it is tried by `attempt`. -/
def matchBy? (attempt : Rule → Option Char → Text → Probe) (rule : Rule) (previous : Option Char)
    (text : Text) : Option Nat :=
  if text.head?.any rule.couldStart then (attempt rule previous text).width?.filter (0 < ·)
  else none

/-- The first rule that finds a token when rules are tried by `attempt`. -/
def firstMatchBy? (attempt : Rule → Option Char → Text → Probe) (rules : List Rule)
    (previous : Option Char) (text : Text) : Option (Rule × Nat) :=
  rules.findSome? fun rule => (rule.matchBy? attempt previous text).map (rule, ·)

end Rule

/-- The steps of a scan in which rules are tried by `attempt`. -/
def stepsBy (attempt : Rule → Option Char → Text → Probe) (rules : List Rule)
    (previous : Option Char) (position skip : Nat) : Text → List Step
  | [] => []
  | c :: rest =>
    match skip with
    | skip + 1 => stepsBy attempt rules (some c) (position + 1) skip rest
    | 0 =>
      match Rule.firstMatchBy? attempt rules previous (c :: rest) with
      | some (rule, width) =>
        .token ⟨position, position + width, rule⟩ ((c :: rest).take width)
          :: stepsBy attempt rules (some c) (position + 1) (width - 1) rest
      | none => .plain position c :: stepsBy attempt rules (some c) (position + 1) 0 rest

/-- The tokens of a text, where runs of operator characters go on by the test `continues`. -/
def spansBy (continues : Char → Bool) (rules : List Rule) (text : Text) : List Span :=
  (stepsBy (Rule.probeBy continues) rules none 0 0 text).filterMap Step.span?

theorem stepsBy_probe (rules : List Rule) (previous : Option Char) (position skip : Nat)
    (text : Text) :
    stepsBy Rule.probe rules previous position skip text =
      stepsFrom rules previous position skip text := by
  have hfirst : Rule.firstMatchBy? Rule.probe = Rule.firstMatch? := rfl
  induction text generalizing previous position skip with
  | nil => rfl
  | cons c rest ih =>
    cases skip with
    | zero =>
      rw [stepsBy, stepsFrom, hfirst]
      cases Rule.firstMatch? rules previous (c :: rest) with
      | none => exact congrArg (Step.plain position c :: ·) (ih _ _ 0)
      | some found =>
        exact congrArg (Step.token ⟨position, position + found.2, found.1⟩
          ((c :: rest).take found.2) :: ·) (ih _ _ _)
    | succ skip => rw [stepsBy, stepsFrom, ih]

/-- Only one character is read of a text that begins with no symbol. -/
theorem narrow_operators_of_not_isSymbol (continues : Char → Bool) {c : Char}
    (hc : isSymbol c = false) (rest : Text) :
    narrow operators continues (c :: rest) = ⟨none, 1⟩ := by
  have htails : tailsAfter c operators = [] := by
    rw [List.eq_nil_iff_forall_not_mem]
    intro tail htail
    have hsymbol := (operators_symbol _ (mem_tailsAfter.mp htail)).2 c List.mem_cons_self
    rw [hc] at hsymbol
    cases hsymbol
  rw [narrow, narrowFrom, htails]
  rfl

namespace Rule

/-- **What is read past an operator is given back**, so it does not matter which other characters a
run may go on with. -/
theorem probeRun_eq {continues : Char → Bool} (h : ∀ c, isSymbol c → continues c) (text : Text) :
    probeRun continues text = probeSymbol text := by
  rcases text with _ | ⟨c, rest⟩
  · rfl
  rw [probeRun, probeSymbol]
  by_cases hc : isSymbol c
  · -- Both find the longest operator, and there is one.
    have hlongest := longest_operator (c :: rest)
    have hsame : (narrow operators continues (c :: rest)).longest =
        (narrow operators extendsRun (c :: rest)).longest :=
      (longest_narrow_of_all (fun word hword => ⟨(operators_symbol word hword).1,
        fun d hd => h d ((operators_symbol word hword).2 d hd)⟩) _).eq hlongest
    cases hfound : (narrow operators extendsRun (c :: rest)).longest with
    | none =>
      rw [hfound] at hlongest
      exact absurd ⟨rest, rfl⟩ (hlongest [c] (singleton_mem_operators hc))
    | some n =>
      simp only [Narrowing.width, hsame, hfound, Option.getD_some]
  · rw [Bool.not_eq_true] at hc
    rw [narrow_operators_of_not_isSymbol _ hc, narrow_operators_of_not_isSymbol _ hc]

theorem probeBy_eq {continues : Char → Bool} (h : ∀ c, isSymbol c → continues c) :
    probeBy continues = probe := by
  funext rule previous text
  cases rule with
  | symbol => exact probeRun_eq h text
  | _ => rfl

end Rule

theorem spansBy_eq {continues : Char → Bool} (h : ∀ c, isSymbol c → continues c)
    (rules : List Rule) (text : Text) : spansBy continues rules text = spans rules text := by
  rw [spansBy, Rule.probeBy_eq h, stepsBy_probe]
  rfl

/-! ## All operators of a text -/

/-- Whatever the rules are, a symbol belongs to a token if operators are among them. -/
theorem exists_covers_of_isSymbol (hrules : .symbol ∈ rules) {i : Nat} {c : Char}
    (hi : text[i]? = some c) (hc : isSymbol c) : ∃ span ∈ spans rules text, span.Covers i := by
  refine exists_covers_of_firstMatch? fun hnone => ?_
  have hhead : (text.drop i).head?.any isSymbol := by
    rw [List.head?_drop, hi]
    exact hc
  obtain ⟨n, hn⟩ := Option.isSome_iff_exists.mp (Rule.isSome_match?_symbol.mpr hhead)
  rw [Rule.firstMatch?_eq_none_iff.mp hnone _ hrules] at hn
  cases hn

/-- **The operators of a text** are the longest ones that stand in it, outside of other tokens, where
no comment opens and no number begins with a point. So every symbol belongs to a token. It does not
matter whether reading goes on past symbols, as it does, or with symbols only. -/
theorem mem_spans_symbol_iff (text : Text) :
    (∀ start stop, ⟨start, stop, .symbol⟩ ∈ spans Rule.priority text ↔
      stop ≤ text.length ∧ text.slice start stop ∈ operators ∧
        (∀ word ∈ operators, word <+: text.drop start → word.length ≤ stop - start) ∧
        (∀ span ∈ spans Rule.priority text, ¬ span.Crosses start) ∧
        ¬ ['/', '/'] <+: text.drop start ∧ ¬ ['/', '*'] <+: text.drop start ∧
        ¬ (text[start]? = some '.' ∧
          ∀ c ∈ (text.take start).getLast?, Unicode.isWhiteSpace c ∨ isSymbol c)) ∧
      (∀ i c, text[i]? = some c → isSymbol c →
        ∃ span ∈ spans Rule.priority text, span.Covers i) ∧
      spansBy Rule.extendsRun Rule.priority text = spans Rule.priority text ∧
      spansBy isSymbol Rule.priority text = spans Rule.priority text := by
  refine ⟨fun start stop => ?_, fun i c => exists_covers_of_isSymbol (by decide),
    spansBy_eq (fun c => extendsRun_of_isSymbol) _ text, spansBy_eq (fun c => id) _ text⟩
  rw [← atBoundary_iff]
  rcases Nat.lt_or_ge stop start with hlt | hle
  · -- Nothing lies between offsets that are not in order, and no operator is empty.
    have hempty : text.slice start stop = [] := by
      rw [Text.slice, Nat.sub_eq_zero_of_le (Nat.le_of_lt hlt), List.take_zero]
    constructor
    · intro h
      have := spansFrom_bounds h
      dsimp only at this
      omega
    · rintro ⟨-, hword, -⟩
      exact absurd hempty (operators_symbol _ hword).1
  · obtain ⟨n, rfl⟩ := Nat.exists_eq_add_of_le hle
    rw [mem_spans_iff, Rule.firstMatch?_priority_symbol_iff, Rule.match?_symbol_drop,
      List.head?_drop, Nat.add_sub_cancel_left]
    tauto

/-- Operators next to a quote, in a chain of points, and around a comment. -/
theorem mem_spans_symbol_points :
    ⟨1, 4, .symbol⟩ ∈ spans Rule.priority "a<<=\"b\"/.x..5//".toList ∧
      ⟨2, 4, .symbol⟩ ∉ spans Rule.priority "a<<=\"b\"/.x..5//".toList ∧
      ⟨7, 8, .symbol⟩ ∈ spans Rule.priority "a<<=\"b\"/.x..5//".toList ∧
      ⟨8, 9, .symbol⟩ ∉ spans Rule.priority "a<<=\"b\"/.x..5//".toList ∧
      ⟨10, 11, .symbol⟩ ∈ spans Rule.priority "a<<=\"b\"/.x..5//".toList ∧
      ⟨13, 14, .symbol⟩ ∉ spans Rule.priority "a<<=\"b\"/.x..5//".toList ∧
      "a<<=\"b\"/.x..5//".toList[13]? = some '/' ∧ isSymbol '/' ∧
      ∃ span ∈ spans Rule.priority "a<<=\"b\"/.x..5//".toList, span.Covers 13 := by
  obtain ⟨hiff, hcovers, -⟩ := mem_spans_symbol_iff "a<<=\"b\"/.x..5//".toList
  simp only [← atBoundary_iff] at hiff
  exact ⟨(hiff 1 4).mpr (by decide), mt (hiff 2 4).mp (by decide), (hiff 7 8).mpr (by decide),
    mt (hiff 8 9).mp (by decide), (hiff 10 11).mpr (by decide), mt (hiff 13 14).mp (by decide),
    rfl, by decide, hcovers 13 '/' rfl (by decide)⟩

end Highlighter
