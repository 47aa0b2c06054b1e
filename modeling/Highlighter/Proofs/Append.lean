import Highlighter.Proofs.Cut
import Highlighter.Proofs.Scan

/-!
# Text put at the end

What becomes of the tokens of a text when more is written behind it, or, the other way round, when
the text is cut off after some characters.

* `IsCut`: the tokens before a cut are those that end by then, and at most one that ends at the cut.
* `isCut_spansFrom`: the tokens of a text before a cut.
* `spans_take`: in particular, no token that ends before the end of a text is touched by what is
  written behind it.
-/

namespace Highlighter

/-- The tokens of `cut` are those of `whole` that end by `stop`, and at most one more, which ends
right at `stop`. -/
def IsCut (stop : Nat) (whole cut : List Span) : Prop :=
  ∃ last : Option Span,
    cut = whole.filter (·.stop ≤ stop) ++ last.toList ∧ ∀ span ∈ last, span.stop = stop

namespace IsCut

variable {stop : Nat} {whole cut : List Span}

/-- Where all tokens go past the cut, at most a piece of the first is left. -/
theorem of_past (hpast : ∀ span ∈ whole, stop < span.stop) (last : Option Span)
    (hlast : ∀ span ∈ last, span.stop = stop) : IsCut stop whole last.toList := by
  refine ⟨last, ?_, hlast⟩
  have hnone : whole.filter (·.stop ≤ stop) = [] := by
    rw [List.filter_eq_nil_iff]
    intro span hspan
    have := hpast span hspan
    simp only [decide_eq_true_eq]
    omega
  rw [hnone, List.nil_append]

/-- A token that ends by the cut stays. -/
theorem cons {span : Span} (hspan : span.stop ≤ stop) (h : IsCut stop whole cut) :
    IsCut stop (span :: whole) (span :: cut) := by
  obtain ⟨last, rfl, hlast⟩ := h
  refine ⟨last, ?_, hlast⟩
  rw [List.filter_cons, if_pos (decide_eq_true hspan), List.cons_append]

/-- The tokens that end before the cut are the same. -/
theorem filter_lt (h : IsCut stop whole cut) :
    cut.filter (·.stop < stop) = whole.filter (·.stop < stop) := by
  obtain ⟨last, rfl, hlast⟩ := h
  have hdrop : last.toList.filter (·.stop < stop) = [] := by
    rw [List.filter_eq_nil_iff]
    intro span hspan
    have := hlast span (Option.mem_toList.mp hspan)
    simp only [decide_eq_true_eq]
    omega
  rw [List.filter_append, hdrop, List.append_nil, List.filter_filter]
  apply List.filter_congr
  intro span _
  rw [← Bool.decide_and, decide_eq_decide]
  omega

end IsCut

/-! ## Words -/

variable {rules : List Rule} {previous : Option Char} {position k : Nat} {text : Text}

/-- No token begins within a word. -/
theorem spansFrom_word {word : Text} (hp : atBoundary previous = false)
    (hword : ∀ c ∈ word, isIdentifier c) (rest : Text) :
    ∃ last : Option Char, spansFrom rules previous position (word ++ rest) =
      spansFrom rules last (position + word.length) rest := by
  induction word generalizing previous position with
  | nil => exact ⟨previous, rfl⟩
  | cons c word ih =>
    have hc : isIdentifier c := hword c List.mem_cons_self
    obtain ⟨last, hlast⟩ : ∃ last : Option Char,
        spansFrom rules (some c) (position + 1) (word ++ rest) =
          spansFrom rules last (position + 1 + word.length) rest :=
      ih (not_atBoundary_of_isIdentifier hc) fun d hd => hword d (List.mem_cons_of_mem c hd)
    refine ⟨last, ?_⟩
    rw [List.cons_append, spansFrom_plain (Rule.firstMatch?_of_isIdentifier hp hc _), hlast,
      List.length_cons, Nat.add_assoc, Nat.add_comm 1]

/-! ## Cutting a text -/

/-- Where the first rule fails, the rest of a word that is cut has no tokens. -/
theorem spansFrom_cutsFirst (rules : List Rule) (position : Nat) {c : Char} {rest : Text}
    (hword : (∀ d ∈ c :: rest.take k, d.isLower) ∨ k = 0) (more : Text) :
    ∃ last : Option Char, spansFrom rules (some c) position (rest.take k ++ more) =
      spansFrom rules last (position + (rest.take k).length) more := by
  rcases hword with hword | rfl
  · have hidentifier : ∀ d ∈ c :: rest.take k, isIdentifier d := fun d hd =>
      isIdentifier_of_isLower (hword d hd)
    exact spansFrom_word (not_atBoundary_of_isIdentifier (hidentifier c List.mem_cons_self))
      (fun d hd => hidentifier d (List.mem_cons_of_mem c hd)) more
  · exact ⟨some c, rfl⟩

/-- Where a word or an opener is cut, the tokens of the whole text go past the cut. -/
theorem lt_stop_of_cutsFirst {span : Span} (h : Rule.CutsFirst rules previous text (k + 1))
    (hspan : span ∈ spansFrom rules previous position text) : position + (k + 1) < span.stop := by
  obtain ⟨hword, hlt, -, hpast⟩ := h
  rcases text with _ | ⟨c, rest⟩
  · cases hspan
  rw [List.take_succ_cons] at hword
  rw [List.length_cons] at hlt
  cases hfirst : Rule.firstMatch? rules previous (c :: rest) with
  | some found =>
    obtain ⟨rule, n⟩ := found
    have hn := hpast rule n hfirst
    rw [spansFrom_token hfirst] at hspan
    rcases List.mem_cons.mp hspan with rfl | hmem
    · exact Nat.add_lt_add_left hn position
    · have := spansFrom_bounds hmem
      omega
  | none =>
    obtain ⟨last, hlast⟩ := spansFrom_cutsFirst rules (position + 1)
      (hword.imp_right Nat.succ.inj) (rest.drop k)
    rw [spansFrom_plain hfirst, ← List.take_append_drop k rest, hlast, List.length_take] at hspan
    have := spansFrom_bounds hspan
    omega

/-- Where a word or an opener is cut, what is left is at most one token, which ends at the cut. -/
theorem spansFrom_take_of_cutsFirst (position : Nat)
    (h : Rule.CutsFirst rules previous text (k + 1)) :
    ∃ last : Option Span, spansFrom rules previous position (text.take (k + 1)) = last.toList ∧
      ∀ span ∈ last, span.stop = position + (k + 1) := by
  obtain ⟨hword, hlt, hat, -⟩ := h
  rcases text with _ | ⟨c, rest⟩
  · cases hlt
  rw [List.length_cons] at hlt
  rw [List.take_succ_cons] at hword hat ⊢
  cases hfirst : Rule.firstMatch? rules previous (c :: rest.take k) with
  | some found =>
    obtain ⟨rule, m⟩ := found
    obtain rfl := hat rule m hfirst
    have hdrop : (c :: rest.take k).drop (k + 1) = [] := by
      rw [List.drop_eq_nil_iff, List.length_cons, List.length_take]
      omega
    rw [spansFrom_token hfirst, hdrop, spansFrom_nil]
    exact ⟨some _, rfl, fun span hspan => by rw [← Option.some.inj hspan]⟩
  | none =>
    obtain ⟨last, hlast⟩ := spansFrom_cutsFirst rules (position + 1)
      (hword.imp_right Nat.succ.inj) []
    rw [List.append_nil, spansFrom_nil] at hlast
    rw [spansFrom_plain hfirst, hlast]
    exact ⟨none, rfl, fun span hspan => by cases hspan⟩

theorem isCut_of_cutsFirst (hk : 0 < k) (h : Rule.CutsFirst rules previous text k) :
    IsCut (position + k) (spansFrom rules previous position text)
      (spansFrom rules previous position (text.take k)) := by
  obtain ⟨j, rfl⟩ : ∃ j, k = j + 1 := Nat.exists_eq_succ_of_ne_zero (Nat.ne_of_gt hk)
  obtain ⟨last, htake, hlast⟩ := spansFrom_take_of_cutsFirst position h
  rw [htake]
  exact .of_past (fun span hspan => lt_stop_of_cutsFirst h hspan) last hlast

/-- **The tokens before a cut** are those that end by then, and at most one that ends there. -/
theorem isCut_spansFrom (rules : List Rule) (previous : Option Char) (position : Nat) (text : Text)
    (k : Nat) :
    IsCut (position + k) (spansFrom rules previous position text)
      (spansFrom rules previous position (text.take k)) := by
  induction previous, position, text using scan_induction rules generalizing k with
  | nil previous position => exact ⟨none, by rw [List.take_nil]; rfl, fun _ h => by cases h⟩
  | plain previous position c rest h ih =>
    rcases Nat.eq_zero_or_pos k with rfl | hk
    · refine .of_past (fun span hspan => ?_) none fun span hspan => by cases hspan
      have := spansFrom_bounds hspan
      omega
    rcases Rule.firstMatch?_take rules previous (c :: rest) hk with heq | hcut
    · obtain ⟨j, rfl⟩ : ∃ j, k = j + 1 := Nat.exists_eq_succ_of_ne_zero (Nat.ne_of_gt hk)
      rw [h, List.take_succ_cons, Option.map_none] at heq
      rw [List.take_succ_cons, spansFrom_plain h, spansFrom_plain heq, Nat.add_comm j,
        ← Nat.add_assoc]
      exact ih j
    · exact isCut_of_cutsFirst hk hcut
  | token previous position text rule n h ih =>
    rcases Nat.eq_zero_or_pos k with rfl | hk
    · refine .of_past (fun span hspan => ?_) none fun span hspan => by cases hspan
      have := spansFrom_bounds hspan
      omega
    rcases Rule.firstMatch?_take rules previous text hk with heq | hcut
    · rw [h, Option.map_some, Prod.map_apply, id] at heq
      rw [spansFrom_token h, spansFrom_token heq]
      rcases Nat.lt_or_ge k n with hlt | hle
      · -- The token reaches past the cut and is left as a piece of itself.
        rw [Nat.min_eq_left (Nat.le_of_lt hlt), List.drop_take_self, spansFrom_nil]
        refine .of_past (fun span hspan => ?_) (some _) fun span hspan => ?_
        · rcases List.mem_cons.mp hspan with rfl | hmem
          · exact Nat.add_lt_add_left hlt position
          · have := spansFrom_bounds hmem
            omega
        · rw [← Option.some.inj hspan]
      · have hpos : position + n + (k - n) = position + k := by omega
        rw [Nat.min_eq_right hle, List.take_take, Nat.min_eq_left hle, List.drop_take, ← hpos]
        exact (ih (k - n)).cons (Nat.le_add_right _ _)
    · exact isCut_of_cutsFirst hk hcut

/-- **Writing at the end of a text.** The tokens of the first `m` characters are the tokens of the
whole text that end by then, and at most one more, which ends right there; so every token that
ends before the end of a text stays when more is written behind it, and no such token comes up. -/
theorem spans_take (rules : List Rule) (text : Text) (m : Nat) :
    (∃ last : Option Span,
      spans rules (text.take m) = (spans rules text).filter (·.stop ≤ m) ++ last.toList ∧
        ∀ span ∈ last, span.stop = m) ∧
      (spans rules (text.take m)).filter (·.stop < m) =
        (spans rules text).filter (·.stop < m) := by
  have hcut := isCut_spansFrom rules none 0 text m
  rw [Nat.zero_add, ← spans_eq_spansFrom, ← spans_eq_spansFrom] at hcut
  exact ⟨hcut, hcut.filter_lt⟩

/-- The token that ends at a cut may be none of the whole text. -/
example : spans [.keyword] "ifx".toList = [] ∧
    spans [.keyword] ("ifx".toList.take 2) = [⟨0, 2, .keyword⟩] := by decide

end Highlighter
