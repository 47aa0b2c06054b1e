import Mathlib.Order.Bounds.Defs
import Highlighter.Proofs.Reading

/-!
# The longest word at a cursor

Reading along a word list goes on past a complete word for as long as a longer one is possible, and
gives back what was read in vain. So it ends behind the longest word that can be read from where the
cursor stood, whatever the list: its words need not be prefixes of each other, and it may hold a word
twice or the empty one.

* `IsLongest.eq_some_iff`, `IsLongest.eq_none_iff`: what the answer of a search says about the list.
* `Cursor.tryWords_isGreatest`: reading finds the longest word that fits, ends behind it, and leaves
  no other trace.
-/

namespace Highlighter

/-! ## Answers -/

/-- An answer names a length where that is the greatest length of a word with the property. -/
theorem IsLongest.eq_some_iff {words : List Text} {P : Text → Prop} {found : Option Nat}
    (h : IsLongest words P found) (n : Nat) :
    found = some n ↔ IsGreatest {m | ∃ word ∈ words, P word ∧ word.length = m} n := by
  constructor
  · rintro rfl
    obtain ⟨hword, hmax⟩ := h
    refine ⟨hword, ?_⟩
    rintro m ⟨word, hmem, hP, rfl⟩
    exact hmax word hmem hP
  · rintro ⟨hword, hmax⟩
    exact h.eq (b := some n) ⟨hword, fun word hmem hP => hmax ⟨word, hmem, hP, rfl⟩⟩

/-- There is no answer where no word has the property. -/
theorem IsLongest.eq_none_iff {words : List Text} {P : Text → Prop} {found : Option Nat}
    (h : IsLongest words P found) : found = none ↔ ∀ word ∈ words, ¬ P word := by
  constructor
  · rintro rfl
    exact h
  · exact fun hnone => h.eq (b := none) hnone

/-! ## Reading -/

namespace Cursor

/-- The answer of narrowing at a cursor, about the text that is not read yet. -/
theorem isLongest_narrow (words : List Text) (continues : Char → Bool) (c : Cursor) :
    IsLongest words (Fits continues · c.ahead) (c.narrow words continues).1 :=
  longest_narrow words continues c.ahead

/-- Narrowing moves a cursor on, and not past the end of the text. -/
theorem Valid.narrow {c : Cursor} (h : c.Valid) (words : List Text) (continues : Char → Bool) :
    (c.narrow words continues).2.Valid :=
  h.advance (width_narrow_le words continues c.ahead)

/-- A cursor that has found a word stands right behind it. -/
theorem speculative_narrow {words : List Text} {continues : Char → Bool} {c : Cursor} {n : Nat}
    (h : (c.narrow words continues).1 = some n) :
    (c.narrow words continues).2.speculative = c.speculative + n := by
  have hlongest : (Highlighter.narrow words continues c.ahead).longest = some n := h
  show c.speculative + (Highlighter.narrow words continues c.ahead).width = c.speculative + n
  rw [Narrowing.width, hlongest, Option.getD_some]

/-- **Reading along a word list finds the longest word that fits**: of the words of the list that
stand where the cursor reads and whose characters after the first may be read on to, the greatest
length. The cursor then stands behind that word. There is no answer where no word fits. The text and
the committed offset stay in any case, and so does the order of the offsets. -/
theorem tryWords_isGreatest (words : List Text) (continues : Char → Bool) (c : Cursor)
    (h : c.Valid) :
    (∀ n, (c.tryWords words continues).1 = some n ↔
      IsGreatest {m | ∃ word ∈ words, Fits continues word c.ahead ∧ word.length = m} n) ∧
    ((c.tryWords words continues).1 = none ↔ ∀ word ∈ words, ¬ Fits continues word c.ahead) ∧
    (∀ n, (c.tryWords words continues).1 = some n →
      (c.tryWords words continues).2.speculative = c.speculative + n) ∧
    (c.tryWords words continues).2.source = c.source ∧
    (c.tryWords words continues).2.committed = c.committed ∧
    (c.tryWords words continues).2.Valid ∧
    c.tryWords words continues = c.narrow words continues := by
  have hfound := isLongest_narrow words continues c
  rw [tryWords_eq h.1]
  exact ⟨hfound.eq_some_iff, hfound.eq_none_iff, fun n => speculative_narrow, rfl, rfl,
    h.narrow words continues, rfl⟩

/-- Behind a blank that is not committed, six characters are read and three of them given back: the
one word that is complete by then is `int`, and the longer one goes on differently. -/
theorem tryWords_isGreatest_interval :
    Cursor.Valid ⟨"a interval".toList, 1, 2⟩ ∧
      Cursor.tryWords (["", "int", "interface", "int"].map String.toList) isIdentifier
        ⟨"a interval".toList, 1, 2⟩ = (some 3, ⟨"a interval".toList, 1, 5⟩) ∧
      IsGreatest {m | ∃ word ∈ ["", "int", "interface", "int"].map String.toList,
        Fits isIdentifier word "interval".toList ∧ word.length = m} 3 := by
  have hvalid : Cursor.Valid ⟨"a interval".toList, 1, 2⟩ := by decide
  have hnarrow : Cursor.narrow (["", "int", "interface", "int"].map String.toList) isIdentifier
      ⟨"a interval".toList, 1, 2⟩ = (some 3, ⟨"a interval".toList, 1, 5⟩) := by decide
  obtain ⟨hsome, -, -, -, -, -, heq⟩ := tryWords_isGreatest
    (["", "int", "interface", "int"].map String.toList) isIdentifier _ hvalid
  exact ⟨hvalid, heq.trans hnarrow, (hsome 3).mp (by rw [heq, hnarrow])⟩

end Cursor

end Highlighter
