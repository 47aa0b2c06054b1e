import Highlighter.Proofs.Narrowing
import Highlighter.Rule.Word

/-!
# The tables of words and the classes of characters

What the rules rely on about the fixed words and about the characters in them.

* `keywords_lower`, `operators_symbol`: keywords are lowercase letters, operators are symbols.
* `take_mem_operators`, `singleton_mem_operators`: the first characters of an operator are an
  operator, and so is each symbol.
* `not_of_isSymbol`: a class of characters without symbols, checked on the list of symbols.
* `isIdentifier_of_isLower`, `not_atBoundary_of_isIdentifier`: lowercase letters are word
  characters, and these delimit nothing.
* `longest_keyword`, `longest_operator`: what narrowing finds in the two tables.
-/

namespace Highlighter

/-! ## Characters -/

theorem toNat_of_isLower {c : Char} (h : c.isLower) : 97 ≤ c.toNat ∧ c.toNat ≤ 122 := by
  have hrange : (decide (c.val ≥ 'a'.val) && decide (c.val ≤ 'z'.val)) = true := h
  rw [Bool.and_eq_true, decide_eq_true_eq, decide_eq_true_eq] at hrange
  exact ⟨UInt32.le_iff_toNat_le.mp hrange.1, UInt32.le_iff_toNat_le.mp hrange.2⟩

theorem not_isDigit_of_isLower {c : Char} (h : c.isLower) : c.isDigit = false := by
  rw [← Bool.not_eq_true]
  intro hdigit
  have hrange : (decide (c.val ≥ '0'.val) && decide (c.val ≤ '9'.val)) = true := hdigit
  rw [Bool.and_eq_true, decide_eq_true_eq, decide_eq_true_eq] at hrange
  have hle : c.toNat ≤ 57 := UInt32.le_iff_toNat_le.mp hrange.2
  have hge := (toNat_of_isLower h).1
  omega

theorem isIdentifier_of_isLower {c : Char} (h : c.isLower) : isIdentifier c := by
  have hc := toNat_of_isLower h
  have : Unicode.isAlphanumeric c = true := by
    unfold Unicode.isAlphanumeric Unicode.alphanumeric
    rw [Unicode.covers_of_gt (by omega) (by omega), Unicode.covers_of_gt (by omega) (by omega),
      Unicode.covers, if_neg (by omega), if_pos hc.2]
  simp [isIdentifier, this]

/-- A class of characters that holds none of the symbols. -/
theorem not_of_isSymbol {p : Char → Bool} {c : Char} (hp : symbolChars.all (!p ·))
    (h : isSymbol c) : p c = false := by
  have hc := List.all_eq_true.mp hp c (List.contains_iff_mem.mp h)
  rwa [Bool.not_eq_true'] at hc

theorem not_isSymbol_of_isIdentifier {c : Char} (h : isIdentifier c) : isSymbol c = false := by
  rw [← Bool.not_eq_true]
  intro hc
  have hnot : isIdentifier c = false := not_of_isSymbol (by decide) hc
  rw [h] at hnot
  cases hnot

theorem not_isWhiteSpace_of_isIdentifier {c : Char} (h : isIdentifier c) :
    Unicode.isWhiteSpace c = false := by
  have hall : (Unicode.codePoints Unicode.whiteSpace).all fun n =>
      n != '_'.toNat && !Unicode.covers Unicode.alphanumeric n := by decide +kernel
  rw [← Bool.not_eq_true]
  intro hc
  have hnot := List.all_eq_true.mp hall c.toNat (Unicode.mem_codePoints hc)
  rw [Bool.and_eq_true, bne_iff_ne, Bool.not_eq_true'] at hnot
  rcases Bool.or_eq_true_iff.mp h with hline | halpha
  · rw [of_decide_eq_true hline] at hnot
    exact hnot.1 rfl
  · rw [Unicode.isAlphanumeric, hnot.2] at halpha
    cases halpha

/-- Nothing starts right after a word character but what starts anywhere. -/
theorem not_atBoundary_of_isIdentifier {c : Char} (h : isIdentifier c) :
    atBoundary (some c) = false := by
  simp [atBoundary, isDelimiter, not_isSymbol_of_isIdentifier h, not_isWhiteSpace_of_isIdentifier h]

theorem extendsRun_of_isSymbol {c : Char} (h : isSymbol c) : Rule.extendsRun c := by
  simp [Rule.extendsRun, h]

theorem isNewline_iff {c : Char} : isNewline c ↔ c = '\n' ∨ c = '\r' := by
  simp [isNewline]

/-- A line end is white space, so words and numbers may start and end at it. -/
theorem atBoundary_of_isNewline {c : Char} (h : isNewline c) : atBoundary (some c) := by
  rcases isNewline_iff.mp h with rfl | rfl <;> decide

theorem not_isLower_of_isNewline {c : Char} (h : isNewline c) : c.isLower = false := by
  rcases isNewline_iff.mp h with rfl | rfl <;> decide

/-! ## Words -/

-- The tables are gone through by Boolean functions, which never ask for all characters there are.

theorem keywords_lower : ∀ word ∈ keywords, word ≠ [] ∧ ∀ c ∈ word, c.isLower := by
  have hall : keywords.all fun word => !word.isEmpty && word.all Char.isLower := by decide
  intro word hword
  have hboth := List.all_eq_true.mp hall word hword
  simpa only [Bool.and_eq_true, Bool.not_eq_true', List.isEmpty_eq_false_iff, List.all_eq_true]
    using hboth

theorem operators_symbol : ∀ word ∈ operators, word ≠ [] ∧ ∀ c ∈ word, isSymbol c := by
  have hall : operators.all fun word => !word.isEmpty && word.all isSymbol := by decide
  intro word hword
  have hboth := List.all_eq_true.mp hall word hword
  simpa only [Bool.and_eq_true, Bool.not_eq_true', List.isEmpty_eq_false_iff, List.all_eq_true]
    using hboth

theorem take_mem_operators :
    ∀ word ∈ operators, ∀ k < word.length, word.take (k + 1) ∈ operators := by
  decide

theorem singleton_mem_operators {c : Char} (h : isSymbol c) : [c] ∈ operators := by
  have hall : symbolChars.all (operators.contains [·]) := by decide
  exact List.contains_iff_mem.mp (List.all_eq_true.mp hall c (List.contains_iff_mem.mp h))

/-! ## Words at the start of a text -/

theorem longest_keyword (text : Text) :
    IsLongest keywords (· <+: text) (narrow keywords isIdentifier text).longest :=
  longest_narrow_of_all (fun word hword => ⟨(keywords_lower word hword).1,
    fun c hc => isIdentifier_of_isLower ((keywords_lower word hword).2 c hc)⟩) text

theorem longest_operator (text : Text) :
    IsLongest operators (· <+: text) (narrow operators Rule.extendsRun text).longest :=
  longest_narrow_of_all (fun word hword => ⟨(operators_symbol word hword).1,
    fun c hc => extendsRun_of_isSymbol ((operators_symbol word hword).2 c hc)⟩) text

end Highlighter
