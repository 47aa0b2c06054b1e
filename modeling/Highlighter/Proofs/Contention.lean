import Mathlib.Data.List.Basic
import Highlighter.Proofs.Match

/-!
# Rules that contend for a place

At most two rules can find a token at the same place, and if there are two, one is the rule for
operators. So in a list of rules it matters only which of the two comes first.

* `soleRule?`, `soleRule?_of_match?`: the one rule besides that for operators that can find a token.
* `contenders`, `mem_contenders_of_match?`: the rules that can find one where an operator stands.
* `isSome_match?_symbol`: operators are found wherever a symbol follows.
* `forall_contenders_iff`: what has to follow for none of them to find one there.
* `idxOf_le_of_firstMatch?`: the first rule that finds a token comes before all others that do.
* `firstMatch?_iff_of_before`, `firstMatch?_symbol_iff_of_after`: what the first rule finds where
  operators come last, as they do in the order of priority (`firstMatch?_priority_iff`).
* `firstMatch?_of_head?`: it is still the first one in another text that begins with the same
  character, if it finds a token there.
-/

namespace Highlighter.Rule

variable {previous : Option Char} {text : Text} {rules : List Rule} {rule : Rule} {m n : Nat}

/-! ## One place -/

theorem ne_of_class {p : Char → Bool} {c d : Char} (hc : p c) (hd : p d = false) : c ≠ d := by
  rintro rfl
  exact absurd (hd.symm.trans hc) Bool.false_ne_true

/-- The rule besides that for operators that can find a token at a place. -/
def soleRule? (previous : Option Char) : Text → Option Rule
  | [] => none
  | c :: rest =>
    if c = '/' then
      if rest.head? = some '/' then some lineComment
      else if rest.head? = some '*' then some blockComment
      else none
    else if c = '"' then some (if previous = some '@' then verbatimString else quotedString)
    else if c = '\'' then some charLiteral
    else if c.isLower then some keyword
    else if isNumeric c then some number
    else none

theorem soleRule?_of_match? (hrule : rule ≠ symbol) (h : rule.match? previous text = some n) :
    soleRule? previous text = some rule := by
  rcases text with _ | ⟨c, rest⟩
  · cases h
  have hstart : rule.couldStart c := (of_match?_eq_some h).1
  cases rule with
  | lineComment | blockComment =>
    simp only [match?_lineComment, match?_blockComment] at h
    split at h
    · rename_i hopener
      obtain ⟨more, hmore⟩ := hopener
      obtain ⟨rfl, rfl⟩ := List.cons.inj hmore
      rfl
    · cases h
  | verbatimString | quotedString =>
    obtain rfl : c = '"' := by simpa [couldStart] using hstart
    simp only [match?_verbatimString, match?_quotedString] at h
    split at h
    · rename_i hcontext
      simp [soleRule?, hcontext.2]
    · cases h
  | charLiteral =>
    obtain rfl : c = '\'' := by simpa [couldStart] using hstart
    rfl
  | keyword =>
    have hlower : c.isLower := hstart
    rw [soleRule?, if_neg (ne_of_class hlower rfl), if_neg (ne_of_class hlower rfl),
      if_neg (ne_of_class hlower rfl), if_pos hlower]
  | number =>
    have hnumeric : isNumeric c := hstart
    have hlower : ¬ c.isLower := fun hc => by
      rw [not_couldStart_of_isLower hc (by decide)] at hstart
      cases hstart
    rw [soleRule?, if_neg (ne_of_class hnumeric rfl), if_neg (ne_of_class hnumeric rfl),
      if_neg (ne_of_class hnumeric rfl), if_neg hlower, if_pos hnumeric]
  | symbol => exact absurd rfl hrule

/-- Two rules that find a token at the same place are one, unless one is that for operators. -/
theorem eq_of_match? {a b : Rule} (ha : a ≠ symbol) (hb : b ≠ symbol)
    (hma : a.match? previous text = some m) (hmb : b.match? previous text = some n) : a = b :=
  Option.some.inj ((soleRule?_of_match? ha hma).symm.trans (soleRule?_of_match? hb hmb))

/-- The rules that can find a token where an operator stands. -/
def contenders : List Rule := [lineComment, blockComment, number]

theorem mem_contenders_of_couldStart {c : Char} (hrule : rule ≠ symbol) (hc : rule.couldStart c)
    (hsymbol : isSymbol c) : rule ∈ contenders := by
  cases rule with
  | lineComment | blockComment | number => decide
  | verbatimString | quotedString =>
    obtain rfl : c = '"' := by simpa [couldStart] using hc
    exact absurd hsymbol (by decide)
  | charLiteral =>
    obtain rfl : c = '\'' := by simpa [couldStart] using hc
    exact absurd hsymbol (by decide)
  | keyword =>
    rw [not_isSymbol_of_isIdentifier (isIdentifier_of_isLower hc)] at hsymbol
    cases hsymbol
  | symbol => exact absurd rfl hrule

theorem mem_contenders_of_match? (hrule : rule ≠ symbol)
    (h : rule.match? previous text = some n) (hsymbol : text.head?.any isSymbol) :
    rule ∈ contenders := by
  rcases text with _ | ⟨c, rest⟩
  · cases h
  · exact mem_contenders_of_couldStart hrule (of_match?_eq_some h).1 hsymbol

/-- An operator is found wherever a symbol follows. -/
theorem isSome_match?_symbol : (symbol.match? previous text).isSome ↔ text.head?.any isSymbol := by
  constructor
  · intro h
    obtain ⟨n, hn⟩ := Option.isSome_iff_exists.mp h
    exact (of_match?_eq_some hn).1
  · intro h
    rcases text with _ | ⟨c, rest⟩
    · cases h
    have hlongest := match?_symbol previous (c :: rest)
    cases hfound : symbol.match? previous (c :: rest) with
    | some n => rfl
    | none =>
      rw [hfound] at hlongest
      exact absurd ⟨rest, rfl⟩ (hlongest [c] (singleton_mem_operators h))

/-- What else than an operator begins with a symbol: a comment, or a number behind a boundary. -/
theorem forall_contenders_iff (hsymbol : text.head?.any isSymbol) :
    (∀ rule ∈ contenders, rule.match? previous text = none) ↔
      ¬ ['/', '/'] <+: text ∧ ¬ ['/', '*'] <+: text ∧
        ¬ (text.head? = some '.' ∧ atBoundary previous) := by
  have hpoint : text.head?.any isNumeric ↔ text.head? = some '.' := by
    rcases text with _ | ⟨c, rest⟩
    · simp
    · have hdigit : c.isDigit = false := not_of_isSymbol (by decide) hsymbol
      simp [isNumeric, hdigit]
  simp [contenders, match?_lineComment, match?_blockComment, match?_number, hpoint, and_comm]

/-! ## The first of several rules -/

/-- The first rule that finds a token comes before all others that find one there. -/
theorem idxOf_le_of_firstMatch? {a b : Rule} (ha : firstMatch? rules previous text = some (a, m))
    (hb : b.match? previous text = some n) : rules.idxOf a ≤ rules.idxOf b := by
  induction rules with
  | nil => cases ha
  | cons rule rules ih =>
    by_cases hrb : rule = b
    · subst hrb
      rw [firstMatch?_cons_of_some hb] at ha
      obtain ⟨rfl, -⟩ := Prod.mk.inj (Option.some.inj ha)
      exact Nat.le_refl _
    rw [List.idxOf_cons_ne _ hrb]
    by_cases hra : rule = a
    · subst hra
      rw [List.idxOf_cons_self]
      exact Nat.zero_le _
    · rw [List.idxOf_cons_ne _ hra]
      refine Nat.succ_le_succ (ih ?_)
      cases hmatch : rule.match? previous text with
      | none => rwa [firstMatch?_cons_of_none hmatch] at ha
      | some k =>
        rw [firstMatch?_cons_of_some hmatch] at ha
        exact absurd (Prod.mk.inj (Option.some.inj ha)).1 hra

/-- A rule that comes before the one for operators is the first to find a token wherever it finds
one. -/
theorem firstMatch?_iff_of_before (hrule : rule ≠ symbol) (hmem : rule ∈ rules)
    (hbefore : symbol ∈ rules → rules.idxOf rule < rules.idxOf symbol) :
    firstMatch? rules previous text = some (rule, n) ↔ rule.match? previous text = some n := by
  constructor
  · exact fun h => (of_firstMatch?_eq_some h).2
  · intro h
    cases hfirst : firstMatch? rules previous text with
    | none =>
      rw [firstMatch?_eq_none_iff.mp hfirst rule hmem] at h
      cases h
    | some found =>
      obtain ⟨winner, m⟩ := found
      obtain ⟨hwinner_mem, hm⟩ := of_firstMatch?_eq_some hfirst
      have hwinner : winner = rule := by
        by_cases hsymbol : winner = symbol
        · subst hsymbol
          exact absurd (idxOf_le_of_firstMatch? hfirst h) (Nat.not_le.mpr (hbefore hwinner_mem))
        · exact eq_of_match? hsymbol hrule hm h
      subst hwinner
      rw [Option.some.inj (hm.symm.trans h)]

/-- In the order of priority, every rule but that for operators is the first to find a token wherever
it finds one. -/
theorem firstMatch?_priority_iff (hrule : rule ≠ symbol) :
    firstMatch? priority previous text = some (rule, n) ↔ rule.match? previous text = some n := by
  refine firstMatch?_iff_of_before hrule (mem_priority rule) fun _ => ?_
  cases rule with
  | symbol => exact absurd rfl hrule
  | _ => decide

/-- The rule for operators that comes after all contenders is the first to find a token where none
of them finds one. -/
theorem firstMatch?_symbol_iff_of_after (hmem : symbol ∈ rules)
    (hafter : ∀ rule ∈ contenders, rules.idxOf rule < rules.idxOf symbol) :
    firstMatch? rules previous text = some (symbol, n) ↔
      symbol.match? previous text = some n ∧
        ∀ rule ∈ contenders, rule.match? previous text = none := by
  constructor
  · intro h
    refine ⟨(of_firstMatch?_eq_some h).2, fun rule hrule => ?_⟩
    cases hm : rule.match? previous text with
    | none => rfl
    | some m => exact absurd (idxOf_le_of_firstMatch? h hm) (Nat.not_le.mpr (hafter rule hrule))
  · rintro ⟨h, hnone⟩
    have hhead := isSome_match?_symbol.mp (Option.isSome_iff_exists.mpr ⟨n, h⟩)
    cases hfirst : firstMatch? rules previous text with
    | none =>
      rw [firstMatch?_eq_none_iff.mp hfirst symbol hmem] at h
      cases h
    | some found =>
      obtain ⟨winner, m⟩ := found
      have hm := (of_firstMatch?_eq_some hfirst).2
      have hwinner : winner = symbol := by
        apply Classical.byContradiction
        intro hne
        rw [hnone winner (mem_contenders_of_match? hne hm hhead)] at hm
        cases hm
      subst hwinner
      rw [Option.some.inj (hm.symm.trans h)]

/-- A rule that is the first to find a token is the first also in another text that begins with the
same character, if it finds a token there at all. -/
theorem firstMatch?_of_head? {other : Text} (hrule : rule ≠ symbol)
    (hhead : other.head? = text.head?) (hfirst : firstMatch? rules previous text = some (rule, m))
    (hother : rule.match? previous other = some n) :
    firstMatch? rules previous other = some (rule, n) := by
  obtain ⟨hmem, hm⟩ := of_firstMatch?_eq_some hfirst
  cases hfound : firstMatch? rules previous other with
  | none =>
    rw [firstMatch?_eq_none_iff.mp hfound rule hmem] at hother
    cases hother
  | some found =>
    obtain ⟨winner, k⟩ := found
    obtain ⟨hwinner_mem, hk⟩ := of_firstMatch?_eq_some hfound
    have hwinner : winner = rule := by
      by_cases hsymbol : winner = symbol
      · -- The rule for operators would have come first in the one text, too.
        subst hsymbol
        have hstart := isSome_match?_symbol.mp (Option.isSome_iff_exists.mpr ⟨k, hk⟩)
        rw [hhead, ← @isSome_match?_symbol previous] at hstart
        obtain ⟨j, hj⟩ := Option.isSome_iff_exists.mp hstart
        exact (List.idxOf_inj hwinner_mem).mp (Nat.le_antisymm
          (idxOf_le_of_firstMatch? hfound hother) (idxOf_le_of_firstMatch? hfirst hj))
      · exact eq_of_match? hsymbol hrule hk hother
    subst hwinner
    rw [Option.some.inj (hk.symm.trans hother)]

end Highlighter.Rule
