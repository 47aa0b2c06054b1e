import Mathlib.Order.Bounds.Basic
import Highlighter.Proofs.Contention
import Highlighter.Proofs.Reading

/-!
# Where comments and literals end

A comment or a literal ends at the first place where its form lets it end, and where there is none,
at the end of the text.

* `EndsAt`, `EndsAt.of_drop`, `EndsAt.cons`: an offset is the first one with a property, or the end
  of the text; how it moves with the text.
* `endsAt_line`, `endsAt_block`, `endsAt_quoted`: the width of each body is such an offset.
* `IsCloser`, `Escaped`: quotes that close a literal, and what stands before the first one.
* `literals_stop`: where quoted strings and character literals open, and where they end.
* `comments_stop`: the same for comments.
-/

namespace Highlighter

open Rule

variable {text : Text} {quote : Char} {i j : Nat}

/-! ## The first place -/

/-- An offset is the first one with a property, or the end of a text where none has it. -/
def EndsAt (P : Nat → Prop) (text : Text) (stop : Nat) : Prop :=
  IsLeast {e | P e} stop ∨ (∀ e, ¬ P e) ∧ stop = text.length

/-- What ends in a part of a text ends there in the whole, if nothing can end before that part. -/
theorem EndsAt.of_drop {P Q : Nat → Prop} {k n : Nat} (h : EndsAt P (text.drop k) n)
    (hk : k ≤ text.length) (hbelow : ∀ e, Q e → k ≤ e) (hadd : ∀ m, Q (k + m) ↔ P m) :
    EndsAt Q text (k + n) := by
  have hpart : ∀ e, Q e → ∃ m, e = k + m ∧ P m := by
    intro e he
    obtain ⟨m, rfl⟩ := Nat.exists_eq_add_of_le (hbelow e he)
    exact ⟨m, rfl, (hadd m).mp he⟩
  rcases h with ⟨hn, hleast⟩ | ⟨hnone, rfl⟩
  · refine .inl ⟨(hadd n).mpr hn, fun e he => ?_⟩
    obtain ⟨m, rfl, hm⟩ := hpart e he
    exact Nat.add_le_add_left (hleast hm) k
  · refine .inr ⟨fun e he => ?_, by rw [List.length_drop, Nat.add_sub_cancel' hk]⟩
    obtain ⟨m, rfl, hm⟩ := hpart e he
    exact hnone m hm

theorem EndsAt.cons {P Q : Nat → Prop} {c : Char} {rest : Text} {n : Nat} (h : EndsAt P rest n)
    (hzero : ¬ Q 0) (hsucc : ∀ m, Q (m + 1) ↔ P m) : EndsAt Q (c :: rest) (n + 1) := by
  rw [Nat.add_comm]
  refine EndsAt.of_drop (k := 1) h (Nat.succ_pos _) (fun e he => ?_) fun m => ?_
  · rcases e with _ | e
    · exact absurd he hzero
    · exact Nat.succ_pos e
  · rw [Nat.add_comm, hsucc]

theorem EndsAt.of_first {P : Nat → Prop} {n : Nat} (hn : P n) (hbelow : ∀ e < n, ¬ P e) :
    EndsAt P text n :=
  .inl ⟨hn, fun e he => Nat.le_of_not_lt fun hlt => hbelow e hlt he⟩

theorem EndsAt.unique {P : Nat → Prop} {m n : Nat} (hm : EndsAt P text m) (hn : EndsAt P text n) :
    m = n := by
  rcases hm with hm | ⟨hnone, rfl⟩
  · rcases hn with hn | ⟨hnone, -⟩
    · exact hm.unique hn
    · exact absurd hm.1 (hnone m)
  · rcases hn with hn | ⟨-, rfl⟩
    · exact absurd hn.1 (hnone n)
    · rfl

/-! ## Comments -/

/-- A line ends at the first line end. -/
theorem endsAt_line (text : Text) :
    EndsAt (fun e => ∃ c, text[e]? = some c ∧ isNewline c) text
      (text.takeWhile (!isNewline ·)).length := by
  induction text with
  | nil => exact .inr ⟨by simp, rfl⟩
  | cons c rest ih =>
    by_cases hc : isNewline c
    · rw [List.takeWhile_cons_of_neg (by simp [hc])]
      exact .inl ⟨⟨c, rfl, hc⟩, fun e _ => Nat.zero_le e⟩
    · rw [List.takeWhile_cons_of_pos (by simp [hc]), List.length_cons]
      refine ih.cons ?_ fun m => by simp
      rintro ⟨d, hd, hnewline⟩
      obtain rfl := Option.some.inj hd
      exact hc hnewline

/-- The body of a block comment ends with the first `*/`. -/
theorem endsAt_block (text : Text) :
    EndsAt (fun e => 2 ≤ e ∧ text.slice (e - 2) e = ['*', '/']) text (blockWidth text) := by
  induction text with
  | nil => exact .inr ⟨by simp [Text.slice], rfl⟩
  | cons c rest ih =>
    rw [blockWidth_cons]
    split
    · rename_i hclose
      obtain ⟨rfl, hhead⟩ := hclose
      obtain ⟨more, rfl⟩ := List.head?_eq_some_iff.mp hhead
      exact .inl ⟨⟨Nat.le_refl 2, rfl⟩, fun e he => he.1⟩
    · rename_i hopen
      refine ih.cons (by simp) fun m => ?_
      rcases m with _ | _ | m
      · simp
      · -- The first two characters are no closer.
        refine iff_of_false ?_ (by simp)
        rintro ⟨-, hslice⟩
        obtain ⟨rfl, htake⟩ := List.cons.inj hslice
        exact hopen ⟨rfl, by rw [← head?_take_of_pos Nat.one_pos, htake]; rfl⟩
      · have hslice : Text.slice (c :: rest) (m + 1) (m + 3) = Text.slice rest m (m + 2) :=
          Text.slice_cons_succ c rest m (m + 2)
        exact and_congr (iff_of_true (by omega) (by omega)) (Eq.congr_left hslice)

/-! ## Literals -/

/-- Whether the character at `j` closes a literal that opens at `i`: it is the quote, and does not
directly follow a backslash. -/
def IsCloser (text : Text) (quote : Char) (i j : Nat) : Prop :=
  i < j ∧ text[j]? = some quote ∧ text[j - 1]? ≠ some '\\'

instance (text : Text) (quote : Char) (i j : Nat) : Decidable (IsCloser text quote i j) :=
  inferInstanceAs (Decidable (_ ∧ _))

theorem isCloser_drop (text : Text) (k : Nat) :
    IsCloser (text.drop k) quote i j ↔ IsCloser text quote (k + i) (k + j) := by
  rw [IsCloser, IsCloser, List.getElem?_drop, List.getElem?_drop, Nat.add_lt_add_iff_left]
  refine and_congr_right fun hlt => ?_
  rw [show k + (j - 1) = k + j - 1 by omega]

/-- The body of a literal ends with the first quote that closes it, where `last` stands before the
body. -/
theorem endsAt_quoted (quote last : Char) (text : Text) :
    EndsAt (fun e => ∃ j, IsCloser (last :: text) quote 0 j ∧ e = j + 1) (last :: text)
      (1 + quotedWidth quote last text) := by
  induction text generalizing last with
  | nil =>
    refine .inr ⟨?_, rfl⟩
    rintro e ⟨j, ⟨hj, hquote, -⟩, -⟩
    rw [List.getElem?_eq_none (Nat.succ_le_of_lt hj)] at hquote
    cases hquote
  | cons c rest ih =>
    rw [quotedWidth]
    split
    · rename_i hclose
      refine .inl ⟨⟨1, ⟨Nat.one_pos, by simp [hclose.1], by simpa using hclose.2⟩, rfl⟩, ?_⟩
      rintro e ⟨j, ⟨hj, -⟩, rfl⟩
      omega
    · rename_i hopen
      refine (ih c).cons (by simp) fun m => ?_
      constructor
      · rintro ⟨j, hj, hm⟩
        obtain rfl : m = j := by omega
        rcases m with _ | _ | m
        · exact absurd hj.1 (Nat.lt_irrefl 0)
        · -- The first character of the body does not close it.
          obtain ⟨-, hquote, hback⟩ := hj
          exact absurd ⟨Option.some.inj hquote, fun h => hback (by rw [← h]; rfl)⟩ hopen
        · exact ⟨m + 1, ⟨Nat.succ_pos m, hj.2⟩, rfl⟩
      · rintro ⟨j, hj, rfl⟩
        rcases j with _ | j
        · exact absurd hj.1 (Nat.lt_irrefl 0)
        · exact ⟨j + 2, ⟨Nat.succ_pos _, hj.2⟩, rfl⟩

/-- A literal that opens with a quote ends with the first quote that closes it. -/
theorem endsAt_literal (hi : text[i]? = some quote) :
    EndsAt (fun e => ∃ j, IsCloser text quote i j ∧ e = j + 1) text
      (i + (1 + quotedWidth quote quote (text.drop (i + 1)))) := by
  obtain ⟨hlt, -⟩ := List.getElem?_eq_some_iff.mp hi
  have hbody := endsAt_quoted quote quote (text.drop (i + 1))
  rw [← Text.drop_eq_cons hi] at hbody
  refine hbody.of_drop (Nat.le_of_lt hlt) (fun e he => ?_) fun m => ?_
  · obtain ⟨j, ⟨hj, -⟩, rfl⟩ := he
    omega
  · constructor
    · rintro ⟨j, hj, hm⟩
      obtain ⟨k, rfl⟩ := Nat.exists_eq_add_of_le (Nat.le_of_lt hj.1)
      exact ⟨k, (isCloser_drop text i).mpr hj, by omega⟩
    · rintro ⟨k, hk, rfl⟩
      exact ⟨i + k, (isCloser_drop text i).mp hk, by omega⟩

/-- Whether an interior can stand in a closed literal: a quote in it directly follows a backslash,
and it does not end with one. -/
def Escaped (quote : Char) (interior : Text) : Prop :=
  (∀ before after, interior = before ++ quote :: after → before.getLast? = some '\\') ∧
    interior.getLast? ≠ some '\\'

theorem Text.getElem?_of_slice_eq {start stop : Nat} {before after : Text} {c : Char}
    (h : text.slice start stop = before ++ c :: after) :
    text[start + before.length]? = some c ∧ start + before.length < stop := by
  have hc : (text.slice start stop)[before.length]? = some c := by
    rw [h, List.getElem?_append_right (Nat.le_refl _), Nat.sub_self]
    rfl
  rw [slice, List.getElem?_take] at hc
  split at hc
  · rw [List.getElem?_drop] at hc
    exact ⟨hc, by omega⟩
  · cases hc

/-- What stands before the first quote that closes a literal can stand in it. -/
theorem escaped_of_isCloser (hquote : quote ≠ '\\') (hi : text[i]? = some quote)
    (hj : IsCloser text quote i j) (hleast : ∀ k, IsCloser text quote i k → j ≤ k) :
    Escaped quote (text.slice (i + 1) j) := by
  constructor
  · intro before after hinterior
    obtain ⟨hk, hlt⟩ := Text.getElem?_of_slice_eq hinterior
    -- This quote comes before the closer, so only a backslash can stand before it.
    have hback : text[i + before.length]? = some '\\' := by
      by_contra hback
      have := hleast (i + 1 + before.length) ⟨by omega, hk, by
        rwa [show i + 1 + before.length - 1 = i + before.length by omega]⟩
      omega
    rcases List.eq_nil_or_concat' before with rfl | ⟨head, last, rfl⟩
    · rw [List.length_nil, Nat.add_zero, hi] at hback
      exact absurd (Option.some.inj hback) hquote
    · rw [List.append_assoc] at hinterior
      have hlast := (Text.getElem?_of_slice_eq hinterior).1
      rw [List.length_append, List.length_singleton, Nat.add_comm head.length, ← Nat.add_assoc,
        hlast] at hback
      rw [List.getLast?_concat, hback]
  · intro hlast
    obtain ⟨head, hinterior⟩ := List.getLast?_eq_some_iff.mp hlast
    have hback := (Text.getElem?_of_slice_eq hinterior).1
    have hlen := congrArg List.length hinterior
    obtain ⟨hlt, -⟩ := List.getElem?_eq_some_iff.mp hj.2.1
    rw [Text.slice, List.length_take, List.length_drop, List.length_append,
      List.length_singleton] at hlen
    refine hj.2.2 ?_
    rw [← hback]
    congr 1
    omega

/-! ## Rules at a fresh cursor -/

namespace Cursor

variable {rule : Rule} {n : Nat}

/-- A rule that finds a token where a fresh cursor stands settles the cursor behind it, and so far
it reads one character after the other. -/
theorem claim_of_match? (h : rule.match? (settled text i).previous (text.drop i) = some n) :
    (settled text i).claim rule = (true, settled text (i + n)) ∧
      (settled text i).tryRule rule = (true, ⟨text, i, i + n⟩) := by
  constructor
  · rw [claim_settled, h]
  · have hprobe : rule.probe (settled text i).previous (settled text i).ahead = .accept n :=
      (of_match?_eq_some h).2
    rw [tryRule_eq_probe rule (Nat.le_refl i), probe, hprobe]
    rfl

theorem fst_claim_iff : ((settled text i).claim rule).1 = true ↔
    (rule.match? (settled text i).previous (text.drop i)).isSome := by
  rw [claim_settled]
  cases rule.match? (settled text i).previous (text.drop i) <;> simp

end Cursor

/-- A literal whose width is known ends where it should. -/
theorem exists_stop_of_match? {rule : Rule} (hquote : quote ≠ '\\') (hi : text[i]? = some quote)
    (h : rule.match? (Cursor.settled text i).previous (text.drop i) =
      some (1 + quotedWidth quote quote (text.drop (i + 1)))) :
    ∃ stop, (Cursor.settled text i).claim rule = (true, .settled text stop) ∧
      (Cursor.settled text i).tryRule rule = (true, ⟨text, i, stop⟩) ∧
      EndsAt (fun e => ∃ j, IsCloser text quote i j ∧ e = j + 1) text stop ∧
      ∀ j, IsCloser text quote i j → stop = j + 1 → Escaped quote (text.slice (i + 1) j) := by
  have hends := endsAt_literal hi
  obtain ⟨hclaim, hread⟩ := Cursor.claim_of_match? h
  refine ⟨_, hclaim, hread, hends, fun j hj hstop => ?_⟩
  rcases hends with ⟨-, hleast⟩ | ⟨hnone, -⟩
  · refine escaped_of_isCloser hquote hi hj fun k hk => ?_
    have := hleast ⟨k, hk, rfl⟩
    omega
  · exact absurd ⟨j, hj, rfl⟩ (hnone (j + 1))

/-- In the order of priority, a quote opens a verbatim string behind an `@`, and a quoted string
behind anything else. -/
theorem exists_firstMatch?_of_quote (previous : Option Char) (hhead : text.head? = some '"') :
    ∃ n, firstMatch? priority previous text =
      some (if previous = some '@' then verbatimString else quotedString, n) := by
  split
  · rename_i hat
    exact ⟨_, (firstMatch?_priority_iff (by decide)).mpr
      ((match?_verbatimString previous text).trans (if_pos ⟨hhead, hat⟩))⟩
  · rename_i hat
    exact ⟨_, (firstMatch?_priority_iff (by decide)).mpr
      ((match?_quotedString previous text).trans (if_pos ⟨hhead, hat⟩))⟩

/-- **Quoted literals.** A quote opens a quoted string unless an `@` stands before it, and an
apostrophe opens a character literal. Both end behind the first quote of their kind that does not
directly follow a backslash, or at the end of the text where there is none; so a quote in the
interior of a closed literal directly follows a backslash, and the interior does not end with one.
In the order of priority, every quote that a step begins at opens a string. -/
theorem literals_stop (text : Text) (i : Nat) :
    (((Cursor.settled text i).claim .quotedString).1 = true ↔
        text[i]? = some '"' ∧ (Cursor.settled text i).previous ≠ some '@') ∧
      (((Cursor.settled text i).claim .charLiteral).1 = true ↔ text[i]? = some '\'') ∧
      (∀ rule quote, (rule, quote) ∈ [(.quotedString, '"'), (.charLiteral, '\'')] →
        ((Cursor.settled text i).claim rule).1 = true →
          ∃ stop, (Cursor.settled text i).claim rule = (true, .settled text stop) ∧
            (Cursor.settled text i).tryRule rule = (true, ⟨text, i, stop⟩) ∧
            EndsAt (fun e => ∃ j, IsCloser text quote i j ∧ e = j + 1) text stop ∧
            ∀ j, IsCloser text quote i j → stop = j + 1 →
              Escaped quote (text.slice (i + 1) j)) ∧
      ∀ step ∈ steps priority text, step.start = i → text[i]? = some '"' →
        ∃ stop, step.span? = some ⟨i, stop,
          if (Cursor.settled text i).previous = some '@' then .verbatimString else .quotedString⟩ := by
  have hquoted := match?_quotedString (Cursor.settled text i).previous (text.drop i)
  have hchar := match?_charLiteral (Cursor.settled text i).previous (text.drop i)
  rw [List.head?_drop, List.tail_drop] at hquoted hchar
  refine ⟨?_, ?_, fun rule quote hrule hclaim => ?_, fun step hstep hstart hi => ?_⟩
  · rw [Cursor.fst_claim_iff, hquoted, Option.isSome_ite]
  · rw [Cursor.fst_claim_iff, hchar, Option.isSome_ite]
  · rw [Cursor.fst_claim_iff] at hclaim
    rcases List.mem_pair.mp hrule with heq | heq
    · obtain ⟨rfl, rfl⟩ := Prod.mk.inj heq
      rw [hquoted, Option.isSome_ite] at hclaim
      rw [if_pos hclaim] at hquoted
      exact exists_stop_of_match? (by decide) hclaim.1 hquoted
    · obtain ⟨rfl, rfl⟩ := Prod.mk.inj heq
      rw [hchar, Option.isSome_ite] at hclaim
      rw [if_pos hclaim] at hchar
      exact exists_stop_of_match? (by decide) hclaim hchar
  · subst hstart
    have hhead : (text.drop step.start).head? = some '"' := by rw [List.head?_drop, hi]
    obtain ⟨n, hn⟩ := exists_firstMatch?_of_quote (Cursor.settled text step.start).previous hhead
    exact ⟨step.start + n, by rw [Cursor.span?_of_mem_steps hstep, hn, Option.map_some]⟩

/-- An escaped quote does not close a string, and behind an escaped apostrophe a character literal
goes on to the end of the text. The scan comes to the quote that opens the string. -/
theorem literals_stop_escapes :
    (Cursor.settled "(\"a\\\"b\"'\\'".toList 1).claim .quotedString =
        (true, .settled "(\"a\\\"b\"'\\'".toList 7) ∧
      Escaped '"' "a\\\"b".toList ∧
      (Cursor.settled "(\"a\\\"b\"'\\'".toList 7).claim .charLiteral =
        (true, .settled "(\"a\\\"b\"'\\'".toList 10) ∧
      ∃ step ∈ steps priority "(\"a\\\"b\"'\\'".toList, step.start = 1 ∧
        ∃ stop, step.span? = some ⟨1, stop, .quotedString⟩ := by
  have hclosed : EndsAt (fun e => ∃ j, IsCloser "(\"a\\\"b\"'\\'".toList '"' 1 j ∧ e = j + 1)
      "(\"a\\\"b\"'\\'".toList 7 := by
    refine .of_first ⟨6, by decide, rfl⟩ ?_
    rintro e he ⟨j, hj, rfl⟩
    have hbelow : ∀ j < 6, ¬ IsCloser "(\"a\\\"b\"'\\'".toList '"' 1 j := by decide
    exact hbelow j (by omega) hj
  have hopen : EndsAt (fun e => ∃ j, IsCloser "(\"a\\\"b\"'\\'".toList '\'' 7 j ∧ e = j + 1)
      "(\"a\\\"b\"'\\'".toList 10 := by
    refine .inr ⟨?_, rfl⟩
    rintro e ⟨j, hj, rfl⟩
    obtain ⟨hlt, -⟩ := List.getElem?_eq_some_iff.mp hj.2.1
    have hwithin : ∀ j < 10, ¬ IsCloser "(\"a\\\"b\"'\\'".toList '\'' 7 j := by decide
    exact hwithin j hlt hj
  have hstep : .token ⟨1, 7, .quotedString⟩ "\"a\\\"b\"".toList ∈
      steps priority "(\"a\\\"b\"'\\'".toList := by
    decide
  obtain ⟨hquoted, -, hstops, hsteps⟩ := literals_stop "(\"a\\\"b\"'\\'".toList 1
  obtain ⟨stop, hclaim, -, hends, hinterior⟩ :=
    hstops .quotedString '"' (by decide) (hquoted.mpr (by decide))
  obtain rfl := hends.unique hclosed
  obtain ⟨-, hchar, hstops', -⟩ := literals_stop "(\"a\\\"b\"'\\'".toList 7
  obtain ⟨stop', hclaim', -, hends', -⟩ :=
    hstops' .charLiteral '\'' (by decide) (hchar.mpr (by decide))
  obtain rfl := hends'.unique hopen
  obtain ⟨stop, hspan⟩ := hsteps _ hstep rfl (by decide)
  rw [if_neg (by decide)] at hspan
  exact ⟨hclaim, hinterior 6 (by decide) rfl, hclaim', _, hstep, rfl, stop, hspan⟩

/-- **Comments.** Two slashes open a line comment, which ends at the first line end, and a slash and
a star open a block comment, which ends with the first `*/` behind both. Where there is none, they
go on to the end of the text. -/
theorem comments_stop (text : Text) (i : Nat) :
    (((Cursor.settled text i).claim .lineComment).1 = true ↔ ['/', '/'] <+: text.drop i) ∧
      (((Cursor.settled text i).claim .blockComment).1 = true ↔ ['/', '*'] <+: text.drop i) ∧
      (['/', '/'] <+: text.drop i →
        ∃ stop, (Cursor.settled text i).claim .lineComment = (true, .settled text stop) ∧
          (Cursor.settled text i).tryRule .lineComment = (true, ⟨text, i, stop⟩) ∧
          EndsAt (fun e => i + 2 ≤ e ∧ (text[e]? = some '\n' ∨ text[e]? = some '\r')) text stop) ∧
      (['/', '*'] <+: text.drop i →
        ∃ stop, (Cursor.settled text i).claim .blockComment = (true, .settled text stop) ∧
          (Cursor.settled text i).tryRule .blockComment = (true, ⟨text, i, stop⟩) ∧
          EndsAt (fun e => i + 4 ≤ e ∧ text.slice (e - 2) e = ['*', '/']) text stop) := by
  have hline := match?_lineComment (Cursor.settled text i).previous (text.drop i)
  have hblock := match?_blockComment (Cursor.settled text i).previous (text.drop i)
  rw [List.drop_drop] at hline hblock
  have hlength : ∀ second, ['/', second] <+: text.drop i → i + 2 ≤ text.length := by
    intro second hopener
    have := hopener.length_le
    simp only [List.length_cons, List.length_nil, List.length_drop] at this
    omega
  refine ⟨?_, ?_, fun hopener => ?_, fun hopener => ?_⟩
  · rw [Cursor.fst_claim_iff, hline, Option.isSome_ite]
  · rw [Cursor.fst_claim_iff, hblock, Option.isSome_ite]
  · rw [if_pos hopener] at hline
    refine ⟨_, (Cursor.claim_of_match? hline).1, (Cursor.claim_of_match? hline).2, ?_⟩
    rw [← Nat.add_assoc]
    refine (endsAt_line _).of_drop (hlength _ hopener) (fun e he => he.1) fun m => ?_
    rw [List.getElem?_drop]
    cases text[i + 2 + m]? <;> simp [isNewline_iff]
  · rw [if_pos hopener] at hblock
    refine ⟨_, (Cursor.claim_of_match? hblock).1, (Cursor.claim_of_match? hblock).2, ?_⟩
    rw [← Nat.add_assoc]
    refine (endsAt_block _).of_drop (hlength _ hopener) (fun e he => by omega) fun m => ?_
    rw [Text.slice_drop]
    constructor
    · rintro ⟨hle, hslice⟩
      rw [Nat.add_sub_assoc (by omega)] at hslice
      exact ⟨by omega, hslice⟩
    · rintro ⟨hle, hslice⟩
      rw [← Nat.add_sub_assoc hle] at hslice
      exact ⟨by omega, hslice⟩

/-- The star that opens a block comment does not close it, and a line comment ends at a carriage
return. -/
theorem comments_stop_openers :
    (Cursor.settled "/*/ // a\r*/".toList 0).claim .blockComment =
        (true, .settled "/*/ // a\r*/".toList 11) ∧
      (Cursor.settled "/*/ // a\r*/".toList 4).claim .lineComment =
        (true, .settled "/*/ // a\r*/".toList 8) := by
  have hblock : EndsAt
      (fun e => 0 + 4 ≤ e ∧ Text.slice "/*/ // a\r*/".toList (e - 2) e = ['*', '/'])
      "/*/ // a\r*/".toList 11 := .of_first (by decide) (by decide)
  have hline : EndsAt (fun e => 4 + 2 ≤ e ∧ ("/*/ // a\r*/".toList[e]? = some '\n' ∨
      "/*/ // a\r*/".toList[e]? = some '\r')) "/*/ // a\r*/".toList 8 :=
    .of_first (by decide) (by decide)
  obtain ⟨-, -, -, hstops⟩ := comments_stop "/*/ // a\r*/".toList 0
  obtain ⟨stop, hclaim, -, hends⟩ := hstops (by decide)
  obtain rfl := hends.unique hblock
  obtain ⟨-, -, hstops', -⟩ := comments_stop "/*/ // a\r*/".toList 4
  obtain ⟨stop', hclaim', -, hends'⟩ := hstops' (by decide)
  obtain rfl := hends'.unique hline
  exact ⟨hclaim, hclaim'⟩

end Highlighter
