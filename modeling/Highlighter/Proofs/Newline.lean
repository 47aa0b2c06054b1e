import Mathlib.Order.Bounds.Basic
import Highlighter.Proofs.Braces

/-!
# Inserting a new line

What is inserted at a caret may split a token, end a comment or go on in a string. Still, the braces
before the caret stay what they are, so the depth behind the inserted text is the depth before it if
no brace is inserted.

A line that will begin with a closing brace is indented as the brace leaves it: the blanks up to the
brace do not change the depth, so one less than at the caret is the depth behind the brace.

* `indentLevel_insert`: the depth behind an inserted text without braces.
* `not_isBrace_of_mem_newlineIndent`: a new line has braces only if the unit of indentation has.
* `newlineIndent_stable`: a second new line is indented like the first.
* `ink`, `closesNext_drop_iff`: what the line will begin with.
* `newlineIndent_before_brace`: the depth that a new line is indented to.
-/

namespace Highlighter

/-- **A text without braces can be inserted anywhere**: the depth behind it is the one that was
there before. -/
theorem indentLevel_insert (rules : List Rule) (before after : Text) {inserted : Text}
    (h : ∀ c ∈ inserted, ¬ isBrace c) :
    indentLevel rules (before ++ inserted ++ after) (before.length + inserted.length) =
      indentLevel rules (before ++ after) before.length := by
  have hstay : indentLevel rules (before ++ inserted ++ after)
      (before.length + inserted.length) =
        indentLevel rules (before ++ inserted ++ after) before.length := by
    refine indentLevel_add fun i hstart hi c hc => h c ?_
    rw [List.append_assoc, List.getElem?_append_right hstart,
      List.getElem?_append_left (by omega)] at hc
    exact List.mem_of_getElem? hc
  rw [hstay, List.append_assoc]
  exact indentLevel_append_congr_of_le (Nat.le_refl _) _ _

theorem not_isBrace_of_mem_newlineIndent {rules : List Rule} {text unit : Text} {caret : Nat}
    (hunit : ∀ c ∈ unit, ¬ isBrace c) :
    ∀ c ∈ newlineIndent rules text caret unit, ¬ isBrace c := by
  intro c hc
  rcases List.mem_cons.mp hc with rfl | hmem
  · decide
  · obtain ⟨copy, hcopy, hmem⟩ := List.mem_flatten.mp hmem
    rw [List.eq_of_mem_replicate hcopy] at hmem
    exact hunit c hmem

/-- **A second new line is indented like the first.** Whatever token the caret is in, inserting a
line end with its indentation changes neither the depth at the caret nor what would be inserted
there next, if the unit of indentation has no brace. -/
theorem newlineIndent_stable (rules : List Rule) (text unit : Text) (caret : Nat)
    (hcaret : caret ≤ text.length) (hunit : '{' ∉ unit ∧ '}' ∉ unit) :
    let inserted := newlineIndent rules text caret unit
    let after := text.take caret ++ inserted ++ text.drop caret
    indentLevel rules after (caret + inserted.length) = indentLevel rules text caret ∧
      newlineIndent rules after (caret + inserted.length) unit = inserted := by
  intro inserted after
  have hplain : ∀ c ∈ inserted, ¬ isBrace c := by
    refine not_isBrace_of_mem_newlineIndent fun c hc hbrace => ?_
    rcases isBrace_iff.mp hbrace with rfl | rfl
    · exact hunit.1 hc
    · exact hunit.2 hc
  have hlen : (text.take caret).length = caret := List.length_take_of_le hcaret
  have hlevel : indentLevel rules after (caret + inserted.length) =
      indentLevel rules text caret := by
    have hinsert := indentLevel_insert rules (text.take caret) (text.drop caret) hplain
    rwa [hlen, List.take_append_drop] at hinsert
  have hrest : after.drop (caret + inserted.length) = text.drop caret := by
    have hboth : (text.take caret ++ inserted).length = caret + inserted.length := by
      rw [List.length_append, hlen]
    rw [← hboth, List.drop_left]
  refine ⟨hlevel, ?_⟩
  rw [newlineIndent, hlevel, hrest]
  rfl

/-- A new line in the middle of a word splits it. -/
theorem newlineIndent_stable_while :
    3 ≤ "\x7bwhile".toList.length ∧ '{' ∉ "  ".toList ∧ '}' ∉ "  ".toList ∧
      newlineIndent Rule.priority "\x7bwhile".toList 3 "  ".toList = "\n  ".toList ∧
      indentLevel Rule.priority "\x7bwh\n  ile".toList 6 =
        indentLevel Rule.priority "\x7bwhile".toList 3 ∧
      newlineIndent Rule.priority "\x7bwh\n  ile".toList 6 "  ".toList = "\n  ".toList := by
  have hcaret : 3 ≤ "\x7bwhile".toList.length := by decide
  have hunit : '{' ∉ "  ".toList ∧ '}' ∉ "  ".toList := by decide
  have hinserted : newlineIndent Rule.priority "\x7bwhile".toList 3 "  ".toList =
      "\n  ".toList := by decide
  have hstable := newlineIndent_stable Rule.priority "\x7bwhile".toList "  ".toList 3 hcaret hunit
  rw [hinserted] at hstable
  exact ⟨hcaret, hunit.1, hunit.2, hinserted, hstable⟩

/-! ## Before a closing brace -/

/-- The offsets, from a caret on, of characters that are neither spaces nor tabs. -/
def ink (text : Text) (caret : Nat) : Set Nat :=
  {i | caret ≤ i ∧ ∃ c, text[i]? = some c ∧ c ≠ ' ' ∧ c ≠ '\t'}

/-- Before the first of these offsets there are blanks only. -/
theorem blank_of_lt_ink {text : Text} {caret i j : Nat} {c : Char} (hj : IsLeast (ink text caret) j)
    (hcaret : caret ≤ i) (hi : i < j) (hc : text[i]? = some c) : c = ' ' ∨ c = '\t' := by
  by_contra hink
  rw [not_or] at hink
  exact Nat.not_lt.mpr (hj.2 ⟨hcaret, c, hc, hink⟩) hi

/-- Behind blanks, the next character is the first of them. -/
theorem isLeast_ink_of_drop {text rest : Text} {caret : Nat} {c : Char} (blanks : Text)
    (hdrop : text.drop caret = blanks ++ c :: rest) (hblanks : ∀ d ∈ blanks, d = ' ' ∨ d = '\t')
    (hc : c ≠ ' ' ∧ c ≠ '\t') :
    IsLeast (ink text caret) (caret + blanks.length) ∧ text[caret + blanks.length]? = some c := by
  have hchar : text[caret + blanks.length]? = some c := by
    rw [← List.getElem?_drop, hdrop, List.getElem?_append_right (Nat.le_refl _), Nat.sub_self]
    rfl
  refine ⟨⟨⟨Nat.le_add_right _ _, c, hchar, hc⟩, ?_⟩, hchar⟩
  rintro i ⟨hcaret, d, hd, hink⟩
  obtain ⟨n, rfl⟩ := Nat.exists_eq_add_of_le hcaret
  refine Nat.add_le_add_left (Nat.not_lt.mp fun hlt => ?_) caret
  rw [← List.getElem?_drop, hdrop, List.getElem?_append_left hlt] at hd
  exact (hblanks d (List.mem_of_getElem? hd)).elim hink.1 hink.2

/-- **What the line will begin with** is the first character that is neither a space nor a tab. -/
theorem closesNext_drop_iff {text : Text} {caret : Nat} :
    closesNext (text.drop caret) ↔ ∃ j, IsLeast (ink text caret) j ∧ text[j]? = some '}' := by
  rw [closesNext, decide_eq_true_iff]
  constructor
  · intro hhead
    obtain ⟨rest, hrest⟩ := List.head?_eq_some_iff.mp hhead
    have hsplit := List.takeWhile_append_dropWhile (p := fun c => c = ' ' || c = '\t')
      (l := text.drop caret)
    rw [hrest] at hsplit
    refine ⟨_, isLeast_ink_of_drop _ hsplit.symm (fun d hd => ?_) (by decide)⟩
    simpa using List.all_eq_true.mp List.all_takeWhile d hd
  · rintro ⟨j, hj, hbrace⟩
    obtain ⟨n, rfl⟩ := Nat.exists_eq_add_of_le hj.1.1
    have hblanks : ∀ c ∈ (text.drop caret).take n, (c = ' ' || c = '\t') = true := by
      intro c hc
      obtain ⟨i, hi⟩ := List.mem_iff_getElem?.mp hc
      rw [List.getElem?_take, List.getElem?_drop, Option.ite_none_right_eq_some] at hi
      obtain ⟨hlt, hi⟩ := hi
      simpa using blank_of_lt_ink hj (Nat.le_add_right caret i) (Nat.add_lt_add_left hlt caret) hi
    rw [← List.take_append_drop n (text.drop caret), List.dropWhile_append_of_pos hblanks,
      List.drop_drop, Text.drop_eq_cons hbrace]
    rfl

/-- The depth at the first character that is not blank is the depth at the caret. -/
theorem indentLevel_of_isLeast_ink (rules : List Rule) {text : Text} {caret j : Nat}
    (hj : IsLeast (ink text caret) j) :
    indentLevel rules text j = indentLevel rules text caret := by
  obtain ⟨n, rfl⟩ := Nat.exists_eq_add_of_le hj.1.1
  refine indentLevel_add fun i hstart hi c hc hbrace => ?_
  rcases blank_of_lt_ink hj hstart hi hc with rfl | rfl
  · cases hbrace
  · cases hbrace

/-- A closing brace that is an operator takes one from the depth, if there is one to take. -/
theorem indentLevel_succ_of_hasBrace {rules : List Rule} {text : Text} {j : Nat}
    (h : HasBrace rules text '}' j) :
    indentLevel rules text (j + 1) = indentLevel rules text j - 1 := by
  have hopen : ¬ HasBrace rules text '{' j := fun hopen => by
    have heq := hopen.1.symm.trans h.1
    simp at heq
  rw [indentLevel_succ, nestAt, if_neg hopen, if_pos h]

/-- **A line that will begin with a closing brace is indented to the depth behind the brace**, if the
brace is an operator; and a line that will not, to the depth at the caret. -/
theorem newlineIndent_before_brace (rules : List Rule) (text unit : Text) (caret : Nat) :
    (∀ j, IsLeast (ink text caret) j → text[j]? = some '}' →
        ⟨j, j + 1, .symbol⟩ ∈ spans rules text →
      newlineIndent rules text caret unit =
        '\n' :: (List.replicate (indentLevel rules text (j + 1)) unit).flatten) ∧
    ((∀ j, IsLeast (ink text caret) j → text[j]? ≠ some '}') →
      newlineIndent rules text caret unit =
        '\n' :: (List.replicate (indentLevel rules text caret) unit).flatten) := by
  constructor
  · intro j hj hbrace hspan
    have hcloses : closesNext (text.drop caret) := closesNext_drop_iff.mpr ⟨j, hj, hbrace⟩
    rw [newlineIndent, if_pos hcloses, indentLevel_succ_of_hasBrace ⟨hbrace, hspan⟩,
      indentLevel_of_isLeast_ink rules hj]
  · intro hother
    have hcloses : ¬ closesNext (text.drop caret) := fun hcloses => by
      obtain ⟨j, hj, hbrace⟩ := closesNext_drop_iff.mp hcloses
      exact hother j hj hbrace
    rw [newlineIndent, if_neg hcloses]

/-- Two braces are open in front of the blanks, and one behind the brace after them. Between the two
the line begins with a brace that opens, and at the end with nothing. -/
theorem newlineIndent_before_brace_nested :
    (IsLeast (ink "\x7b\x7b \t\x7d".toList 2) 4 ∧ "\x7b\x7b \t\x7d".toList[4]? = some '}' ∧
        ⟨4, 5, .symbol⟩ ∈ spans Rule.priority "\x7b\x7b \t\x7d".toList ∧
      newlineIndent Rule.priority "\x7b\x7b \t\x7d".toList 2 "  ".toList = "\n  ".toList) ∧
    ((∀ j, IsLeast (ink "\x7b\x7b \t\x7d".toList 1) j → "\x7b\x7b \t\x7d".toList[j]? ≠ some '}') ∧
      newlineIndent Rule.priority "\x7b\x7b \t\x7d".toList 1 "  ".toList = "\n  ".toList) := by
  have hclose : IsLeast (ink "\x7b\x7b \t\x7d".toList 2) 4 :=
    (isLeast_ink_of_drop " \t".toList rfl (fun d hd => by simpa using hd) (by decide)).1
  have hopen : IsLeast (ink "\x7b\x7b \t\x7d".toList 1) 1 :=
    (isLeast_ink_of_drop [] rfl (List.forall_mem_nil _) (by decide)).1
  have hspan : ⟨4, 5, .symbol⟩ ∈ spans Rule.priority "\x7b\x7b \t\x7d".toList := by decide
  have hother : ∀ j, IsLeast (ink "\x7b\x7b \t\x7d".toList 1) j →
      "\x7b\x7b \t\x7d".toList[j]? ≠ some '}' := fun j hj => by
    rw [hj.unique hopen]
    decide
  have hbefore := (newlineIndent_before_brace Rule.priority _ "  ".toList 2).1 4 hclose rfl hspan
  have hlevel := (newlineIndent_before_brace Rule.priority _ "  ".toList 1).2 hother
  exact ⟨⟨hclose, rfl, hspan, hbefore.trans (by decide)⟩, hother, hlevel.trans (by decide)⟩

end Highlighter
