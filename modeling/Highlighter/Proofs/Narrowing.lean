import Highlighter.Narrowing

/-!
# What narrowing finds

Reading stops early only where no word can go on, so nothing is missed: `narrow` finds the longest
word of the list among those that stand at the start of the text and may be read in full.

* `Fits`: a word stands at the start of a text, and its characters may be read.
* `IsLongest`: a length is that of the longest word of a list with some property.
* `longest_narrow`: narrowing finds the length of the longest word that fits.
* `longest_narrow_of_all`: where all words may be read, that is the longest one that the text
  begins with.
-/

namespace Highlighter

/-- A word stands at the start of a text, and its characters after the first may be read on to. -/
def Fits (continues : Char → Bool) (word text : Text) : Prop :=
  word ≠ [] ∧ word <+: text ∧ ∀ c ∈ word.tail, continues c

/-- The length of the longest word of a list that satisfies `P`, or `none` where no word does. -/
def IsLongest (words : List Text) (P : Text → Prop) : Option Nat → Prop
  | some n => (∃ word ∈ words, P word ∧ word.length = n) ∧ ∀ word ∈ words, P word → word.length ≤ n
  | none => ∀ word ∈ words, ¬ P word

theorem IsLongest.eq {words : List Text} {P : Text → Prop} {a b : Option Nat}
    (ha : IsLongest words P a) (hb : IsLongest words P b) : a = b := by
  rcases a with _ | m <;> rcases b with _ | n
  · rfl
  · obtain ⟨⟨word, hword, hP, -⟩, -⟩ := hb
    exact absurd hP (ha word hword)
  · obtain ⟨⟨word, hword, hP, -⟩, -⟩ := ha
    exact absurd hP (hb word hword)
  · obtain ⟨⟨v, hv, hPv, rfl⟩, hmax⟩ := ha
    obtain ⟨⟨w, hw, hPw, rfl⟩, hmax'⟩ := hb
    rw [Nat.le_antisymm (hmax' v hv hPv) (hmax w hw hPw)]

theorem IsLongest.congr {words : List Text} {P Q : Text → Prop} {found : Option Nat}
    (h : IsLongest words P found) (hPQ : ∀ word ∈ words, P word ↔ Q word) :
    IsLongest words Q found := by
  rcases found with _ | n
  · exact fun word hword hQ => h word hword ((hPQ word hword).mpr hQ)
  · obtain ⟨⟨word, hword, hP, hlen⟩, hmax⟩ := h
    exact ⟨⟨word, hword, (hPQ word hword).mp hP, hlen⟩,
      fun other hother hQ => hmax other hother ((hPQ other hother).mpr hQ)⟩

/-! ## One character further -/

theorem mem_tailsAfter {c : Char} {words : List Text} {tail : Text} :
    tail ∈ tailsAfter c words ↔ c :: tail ∈ words := by
  unfold tailsAfter
  rw [List.mem_filterMap]
  constructor
  · rintro ⟨word, hmem, hword⟩
    rcases word with _ | ⟨d, rest⟩
    · cases hword
    · by_cases h : d = c
      · simp only [h, if_true, Option.some.injEq] at hword
        rwa [← h, ← hword, h] at *
      · simp [h] at hword
  · intro hmem
    exact ⟨c :: tail, hmem, by simp⟩

/-- A word of one character fits without reading on; a longer one fits if reading may go on and
the rest of it fits what follows. -/
theorem fits_cons {continues : Char → Bool} {c d : Char} {tail rest : Text} :
    Fits continues (d :: tail) (c :: rest) ↔
      d = c ∧ (tail = [] ∨ rest.head?.any continues ∧ Fits continues tail rest) := by
  unfold Fits
  rw [List.cons_prefix_cons]
  rcases tail with _ | ⟨e, tail⟩
  · simp
  · constructor
    · rintro ⟨-, ⟨rfl, hpre⟩, hall⟩
      obtain ⟨more, rfl⟩ := id hpre
      refine ⟨rfl, .inr ⟨?_, by simp, hpre, fun x hx => hall x (by simp_all)⟩⟩
      simpa using hall e (by simp)
    · rintro ⟨rfl, h | ⟨hgo, -, hpre, hall⟩⟩
      · cases h
      · obtain ⟨more, rfl⟩ := id hpre
        refine ⟨by simp, ⟨rfl, hpre⟩, fun x hx => ?_⟩
        rcases List.mem_cons.mp hx with rfl | hx
        · simpa using hgo
        · exact hall x hx

theorem not_fits_nil {continues : Char → Bool} {word : Text} : ¬ Fits continues word [] := by
  rintro ⟨hne, hpre, -⟩
  exact hne (List.prefix_nil.mp hpre)

/-- A word that fits begins with the first character of the text. -/
theorem Fits.exists_tail {continues : Char → Bool} {c : Char} {word rest : Text}
    (h : Fits continues word (c :: rest)) : ∃ tail, word = c :: tail := by
  rcases word with _ | ⟨d, tail⟩
  · exact absurd rfl h.1
  · exact ⟨tail, by rw [(fits_cons.mp h).1]⟩

/-! ## The whole run -/

/-- What is found when reading ends after the first character: a word of that character alone. -/
theorem isLongest_first {continues : Char → Bool} {tails : List Text} {c : Char} {rest : Text}
    (h : ∀ tail ∈ tailsAfter c tails, tail ≠ [] → ¬ Fits continues (c :: tail) (c :: rest)) :
    IsLongest tails (Fits continues · (c :: rest))
      (if (tailsAfter c tails).any List.isEmpty then some 1 else none) := by
  have hone : ∀ word ∈ tails, Fits continues word (c :: rest) → word = [c] := by
    intro word hmem hfit
    obtain ⟨tail, rfl⟩ := hfit.exists_tail
    by_cases ht : tail = []
    · rw [ht]
    · exact absurd hfit (h tail (mem_tailsAfter.mpr hmem) ht)
  split
  · rename_i hany
    obtain ⟨tail, hmem, hnil⟩ := List.any_eq_true.mp hany
    rw [List.isEmpty_iff] at hnil
    subst hnil
    refine ⟨⟨[c], mem_tailsAfter.mp hmem, fits_cons.mpr ⟨rfl, .inl rfl⟩, rfl⟩, ?_⟩
    intro word hword hfit
    rw [hone word hword hfit]
    exact Nat.le_refl _
  · rename_i hany
    intro word hword hfit
    refine hany (List.any_eq_true.mpr ⟨[], ?_, rfl⟩)
    rw [mem_tailsAfter, ← hone word hword hfit]
    exact hword

/-- What is found when reading goes on: the longest fit of what is left of the words, with the
first character before it. -/
theorem isLongest_next {continues : Char → Bool} {tails : List Text} {c : Char} {rest : Text}
    {found : Option Nat} (hgo : rest.head?.any continues)
    (h : IsLongest (tailsAfter c tails) (Fits continues · rest) found) :
    IsLongest tails (Fits continues · (c :: rest))
      ((found.map (1 + ·)).or
        (if (tailsAfter c tails).any List.isEmpty then some 1 else none)) := by
  cases found with
  | none =>
    refine isLongest_first fun tail hmem hne hfit => ?_
    rcases (fits_cons.mp hfit).2 with hnil | ⟨-, hfit⟩
    · exact hne hnil
    · exact h tail hmem hfit
  | some n =>
    obtain ⟨⟨tail, hmem, hfit, hlen⟩, hmax⟩ := h
    refine ⟨⟨c :: tail, mem_tailsAfter.mp hmem, fits_cons.mpr ⟨rfl, .inr ⟨hgo, hfit⟩⟩, ?_⟩, ?_⟩
    · rw [List.length_cons, hlen, Nat.add_comm]
    · intro word hword hword_fit
      obtain ⟨tail', rfl⟩ := hword_fit.exists_tail
      show tail'.length + 1 ≤ 1 + n
      rcases (fits_cons.mp hword_fit).2 with hnil | ⟨-, hfit'⟩
      · rw [hnil]
        exact Nat.le_add_right 1 n
      · have := hmax tail' (mem_tailsAfter.mpr hword) hfit'
        omega

/-- The invariant of reading on: the answer is the longest fit of what is left of the words, and
where nothing fits, the word found before. -/
theorem longest_narrowFrom (continues : Char → Bool) (tails : List Text) (longest : Option Nat)
    (read : Nat) (text : Text) :
    ∃ found, IsLongest tails (Fits continues · text) found ∧
      (narrowFrom continues tails longest read text).longest =
        (found.map (read + ·)).or longest := by
  induction text generalizing tails longest read with
  | nil => exact ⟨none, fun _ _ => not_fits_nil, rfl⟩
  | cons c rest ih =>
    unfold narrowFrom
    dsimp only
    -- Both outcomes count from the word that ends with this character, if there is one.
    have hnow : (if (tailsAfter c tails).any List.isEmpty then some (read + 1) else longest) =
        ((if (tailsAfter c tails).any List.isEmpty then some 1 else none).map (read + ·)).or
          longest := by
      split <;> rfl
    rw [hnow]
    split
    · rename_i hstop
      refine ⟨_, isLongest_first fun tail hmem hne hfit => ?_, rfl⟩
      rcases (fits_cons.mp hfit).2 with hnil | ⟨hgo, -⟩
      · exact hne hnil
      · have hsome : (tailsAfter c tails).isEmpty = false := by
          rw [List.isEmpty_eq_false_iff]
          exact List.ne_nil_of_mem hmem
        simp [hsome, hgo] at hstop
    · rename_i hgo
      have hgo : rest.head?.any continues := by simp_all
      obtain ⟨found, hfound, heq⟩ := ih (tailsAfter c tails)
        (((if (tailsAfter c tails).any List.isEmpty then some 1 else none).map (read + ·)).or
          longest) (read + 1)
      refine ⟨_, isLongest_next hgo hfound, ?_⟩
      rw [heq]
      cases found with
      | none => rfl
      | some n => simp [Nat.add_assoc]

/-- The longest word met is no longer than what was read. -/
theorem longest_narrowFrom_le {continues : Char → Bool} {tails : List Text} {longest : Option Nat}
    {read n : Nat} {text : Text} (hread : ∀ n ∈ longest, n ≤ read)
    (h : (narrowFrom continues tails longest read text).longest = some n) :
    n ≤ (narrowFrom continues tails longest read text).read := by
  induction text generalizing tails longest read with
  | nil => exact hread n h
  | cons char rest ih =>
    have hnow : ∀ n ∈ if (tailsAfter char tails).any List.isEmpty then some (read + 1) else longest,
        n ≤ read + 1 := by
      split
      · exact fun n hn => Nat.le_of_eq (Option.some.inj hn).symm
      · exact fun n hn => Nat.le_succ_of_le (hread n hn)
    rw [narrowFrom] at h ⊢
    split
    · rename_i hstop
      rw [if_pos hstop] at h
      exact hnow n h
    · rename_i hgo
      rw [if_neg hgo] at h
      exact ih hnow h

/-- **Narrowing finds the longest word that fits**, and finds none only where none fits. -/
theorem longest_narrow (words : List Text) (continues : Char → Bool) (text : Text) :
    IsLongest words (Fits continues · text) (narrow words continues text).longest := by
  obtain ⟨found, hfound, heq⟩ := longest_narrowFrom continues words none 0 text
  have : (narrow words continues text).longest = found := by
    unfold narrow
    rw [heq]
    cases found <;> simp
  rwa [this]

/-- Where every word may be read in full, narrowing finds the longest word that the text begins
with. -/
theorem longest_narrow_of_all {words : List Text} {continues : Char → Bool}
    (h : ∀ word ∈ words, word ≠ [] ∧ ∀ c ∈ word, continues c) (text : Text) :
    IsLongest words (· <+: text) (narrow words continues text).longest := by
  refine (longest_narrow words continues text).congr fun word hword => ?_
  refine ⟨fun hfit => hfit.2.1, fun hpre => ⟨(h word hword).1, hpre, fun c hc => ?_⟩⟩
  exact (h word hword).2 c (List.mem_of_mem_tail hc)

end Highlighter
