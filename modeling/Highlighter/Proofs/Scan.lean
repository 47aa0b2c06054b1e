import Highlighter.Proofs.Match
import Highlighter.Scan

/-!
# The steps of a scan

How a scan goes on from one step to the next, and what its steps are together.

* `stepsFrom_plain`, `stepsFrom_token`: the first step of a scan and the scan after it.
* `scan_induction`: what holds at the end of a text and is carried back over every step holds.
* `Tiles`, `tiles_steps`: the steps go through the text without a gap, and none is empty.
* `Tiles.pairwise_spans`: the tokens among them stand one after the other.
* `stepsFrom_shift`, `stepsFrom_congr`: a scan does not depend on where it starts, and of the
  character behind only on whether it is a boundary or an `@`.
* `spansFrom`, `mem_filterMap_span?_iff`: the tokens among the steps.
* `Span.Covers`, `Span.Crosses`: whether a token lies over an offset, and on both sides of one.
* `stepsFrom_append`: a scan goes on from an offset that no token crosses as a scan from there.
* `firstMatch?_of_mem_spans`, `width_of_mem_spans`: a token is what the first rule finds where it
  starts.
-/

namespace Highlighter

variable {rules : List Rule} {previous : Option Char} {position : Nat}

/-! ## One step -/

theorem stepsFrom_plain {c : Char} {rest : Text}
    (h : Rule.firstMatch? rules previous (c :: rest) = none) :
    stepsFrom rules previous position 0 (c :: rest) =
      .plain position c :: stepsFrom rules (some c) (position + 1) 0 rest := by
  rw [stepsFrom]
  simp only [h]

theorem stepsFrom_token {text : Text} {rule : Rule} {n : Nat}
    (h : Rule.firstMatch? rules previous text = some (rule, n)) :
    stepsFrom rules previous position 0 text =
      .token ⟨position, position + n, rule⟩ (text.take n) ::
        stepsFrom rules (text.take n).getLast? (position + n) 0 (text.drop n) := by
  obtain ⟨hpos, hle⟩ := Rule.firstMatch?_bounds h
  obtain ⟨m, rfl⟩ : ∃ m, n = m + 1 := Nat.exists_eq_succ_of_ne_zero (Nat.ne_of_gt hpos)
  rcases text with _ | ⟨c, rest⟩
  · simp at hle
  · rw [stepsFrom]
    simp only [h, Nat.add_sub_cancel]
    rw [stepsFrom_skip, List.take_succ_cons, List.drop_succ_cons, List.getLast?_cons,
      Nat.add_assoc, Nat.add_comm 1 m]
    cases (rest.take m).getLast? <;> rfl

/-- Induction along a scan. -/
@[elab_as_elim] theorem scan_induction (rules : List Rule)
    {motive : Option Char → Nat → Text → Prop}
    (nil : ∀ previous position, motive previous position [])
    (plain : ∀ previous position c rest, Rule.firstMatch? rules previous (c :: rest) = none →
      motive (some c) (position + 1) rest → motive previous position (c :: rest))
    (token : ∀ previous position text rule n,
      Rule.firstMatch? rules previous text = some (rule, n) →
        motive (text.take n).getLast? (position + n) (text.drop n) → motive previous position text)
    (previous : Option Char) (position : Nat) (text : Text) : motive previous position text := by
  induction hlen : text.length using Nat.strongRecOn generalizing previous position text with
  | ind len ih =>
    subst hlen
    cases hfirst : Rule.firstMatch? rules previous text with
    | none =>
      rcases text with _ | ⟨c, rest⟩
      · exact nil previous position
      · exact plain previous position c rest hfirst
          (ih rest.length (Nat.lt_succ_self _) (some c) (position + 1) rest rfl)
    | some found =>
      obtain ⟨rule, n⟩ := found
      obtain ⟨hpos, hle⟩ := Rule.firstMatch?_bounds hfirst
      refine token previous position text rule n hfirst (ih _ ?_ _ _ _ rfl)
      rw [List.length_drop]
      omega

/-! ## All steps together -/

/-- The steps follow each other from one offset to another: each starts where the one before ends,
and goes past its own characters, of which there is at least one. -/
def Tiles : Nat → List Step → Nat → Prop
  | start, [], stop => start = stop
  | start, step :: rest, stop =>
    step.start = start ∧ step.text ≠ [] ∧ step.stop = step.start + step.text.length ∧
      Tiles step.stop rest stop

/-- **The steps of a scan go through the whole text**, one right after the other. -/
theorem tiles_stepsFrom (rules : List Rule) (previous : Option Char) (position : Nat)
    (text : Text) :
    Tiles position (stepsFrom rules previous position 0 text) (position + text.length) := by
  induction previous, position, text using scan_induction rules with
  | nil => rfl
  | plain previous position c rest h ih =>
    rw [stepsFrom_plain h, List.length_cons, Nat.add_comm rest.length, ← Nat.add_assoc]
    exact ⟨rfl, List.cons_ne_nil c [], rfl, ih⟩
  | token previous position text rule n h ih =>
    obtain ⟨hpos, hle⟩ := Rule.firstMatch?_bounds h
    rw [List.length_drop, Nat.add_assoc, Nat.add_sub_cancel' hle] at ih
    rw [stepsFrom_token h]
    refine ⟨rfl, ?_, ?_, ih⟩
    · rw [Step.text, ← List.length_pos_iff, List.length_take]
      omega
    · rw [Step.text, Step.stop, Step.start, List.length_take, Nat.min_eq_left hle]

theorem tiles_steps (rules : List Rule) (text : Text) :
    Tiles 0 (steps rules text) text.length := by
  have htiles := tiles_stepsFrom rules none 0 text
  rwa [Nat.zero_add] at htiles

/-- The steps of a scan go past the characters of the text, in order. -/
theorem flatMap_text_stepsFrom (rules : List Rule) (previous : Option Char) (position : Nat)
    (text : Text) : (stepsFrom rules previous position 0 text).flatMap Step.text = text := by
  induction previous, position, text using scan_induction rules with
  | nil => rfl
  | plain previous position c rest h ih =>
    rw [stepsFrom_plain h, List.flatMap_cons, ih, Step.text, List.singleton_append]
  | token previous position text rule n h ih =>
    rw [stepsFrom_token h, List.flatMap_cons, ih, Step.text, List.take_append_drop]

theorem flatMap_text_steps (rules : List Rule) (text : Text) :
    (steps rules text).flatMap Step.text = text :=
  flatMap_text_stepsFrom rules none 0 text

theorem Tiles.le {start stop : Nat} {all : List Step} (h : Tiles start all stop) :
    start ≤ stop := by
  induction all generalizing start with
  | nil => exact Nat.le_of_eq h
  | cons first rest ih =>
    obtain ⟨rfl, -, hstop, hrest⟩ := h
    have := ih hrest
    omega

/-- There are no more steps than characters that they go past. -/
theorem Tiles.length_le {start stop : Nat} {all : List Step} (h : Tiles start all stop) :
    start + all.length ≤ stop := by
  induction all generalizing start with
  | nil => exact Nat.le_of_eq h
  | cons first rest ih =>
    obtain ⟨rfl, hne, hstop, hrest⟩ := h
    have hpos := List.length_pos_iff.mpr hne
    have := ih hrest
    rw [List.length_cons]
    omega

/-- A step lies between the two offsets that the steps tile, and is not empty. -/
theorem Tiles.bounds {start stop : Nat} {all : List Step} (h : Tiles start all stop) {step : Step}
    (hstep : step ∈ all) : start ≤ step.start ∧ step.start < step.stop ∧ step.stop ≤ stop := by
  induction all generalizing start with
  | nil => cases hstep
  | cons first rest ih =>
    obtain ⟨rfl, hne, hstop, hrest⟩ := h
    have hpos := List.length_pos_iff.mpr hne
    have hle : first.stop ≤ stop := hrest.le
    rcases List.mem_cons.mp hstep with rfl | hmem
    · omega
    · have := ih hrest hmem
      omega

theorem Tiles.text_ne_nil {start stop : Nat} {all : List Step} (h : Tiles start all stop)
    {step : Step} (hstep : step ∈ all) : step.text ≠ [] := by
  induction all generalizing start with
  | nil => cases hstep
  | cons first rest ih =>
    obtain ⟨rfl, hne, hstop, hrest⟩ := h
    rcases List.mem_cons.mp hstep with rfl | hmem
    · exact hne
    · exact ih hrest hmem

/-! ## Where a scan starts -/

/-- A token moved on by some characters. -/
def Span.shift (distance : Nat) (span : Span) : Span :=
  ⟨span.start + distance, span.stop + distance, span.rule⟩

/-- A step moved on by some characters. -/
def Step.shift (distance : Nat) : Step → Step
  | token span text => token (span.shift distance) text
  | plain position c => plain (position + distance) c

theorem stepsFrom_shift (rules : List Rule) (previous : Option Char) (position : Nat) (text : Text)
    (distance : Nat) :
    stepsFrom rules previous (position + distance) 0 text =
      (stepsFrom rules previous position 0 text).map (Step.shift distance) := by
  induction previous, position, text using scan_induction rules with
  | nil => rfl
  | plain previous position c rest h ih =>
    rw [stepsFrom_plain h, stepsFrom_plain h, List.map_cons, ← ih, Nat.add_right_comm]
    rfl
  | token previous position text rule n h ih =>
    rw [stepsFrom_token h, stepsFrom_token h, List.map_cons, ← ih, Nat.add_right_comm]
    rfl

/-- Two characters behind a text that are alike for the rules lead to the same steps. -/
theorem stepsFrom_congr {p q : Option Char} (hboundary : atBoundary p = atBoundary q)
    (hat : p = some '@' ↔ q = some '@') (rules : List Rule) (position : Nat) (text : Text) :
    stepsFrom rules p position 0 text = stepsFrom rules q position 0 text := by
  rcases text with _ | ⟨c, rest⟩
  · rfl
  · rw [stepsFrom, stepsFrom, Rule.firstMatch?_congr hboundary hat]

/-! ## Tokens -/

/-- The tokens of a scan from an offset on, with the character `previous` behind it. -/
def spansFrom (rules : List Rule) (previous : Option Char) (position : Nat) (text : Text) :
    List Span :=
  (stepsFrom rules previous position 0 text).filterMap Step.span?

theorem spans_eq_spansFrom (rules : List Rule) (text : Text) :
    spans rules text = spansFrom rules none 0 text := rfl

@[simp] theorem spansFrom_nil : spansFrom rules previous position [] = [] := rfl

theorem spansFrom_plain {c : Char} {rest : Text}
    (h : Rule.firstMatch? rules previous (c :: rest) = none) :
    spansFrom rules previous position (c :: rest) =
      spansFrom rules (some c) (position + 1) rest := by
  rw [spansFrom, stepsFrom_plain h]
  rfl

theorem spansFrom_token {text : Text} {rule : Rule} {n : Nat}
    (h : Rule.firstMatch? rules previous text = some (rule, n)) :
    spansFrom rules previous position text =
      ⟨position, position + n, rule⟩ ::
        spansFrom rules (text.take n).getLast? (position + n) (text.drop n) := by
  rw [spansFrom, stepsFrom_token h]
  rfl

/-- A token is among the steps, with the text it covers. -/
theorem mem_filterMap_span?_iff {all : List Step} {span : Span} :
    span ∈ all.filterMap Step.span? ↔ ∃ body, .token span body ∈ all := by
  rw [List.mem_filterMap]
  constructor
  · rintro ⟨⟨token, body⟩ | _, hstep, heq⟩
    · obtain rfl := Option.some.inj heq
      exact ⟨body, hstep⟩
    · cases heq
  · rintro ⟨body, hstep⟩
    exact ⟨_, hstep, rfl⟩

/-- A token lies between the two offsets that the steps tile, and is not empty. -/
theorem Tiles.span_bounds {start stop : Nat} {all : List Step} (h : Tiles start all stop)
    {span : Span} (hspan : span ∈ all.filterMap Step.span?) :
    start ≤ span.start ∧ span.start < span.stop ∧ span.stop ≤ stop := by
  obtain ⟨body, hstep⟩ := mem_filterMap_span?_iff.mp hspan
  exact h.bounds hstep

/-- The tokens among the steps stand one after the other. -/
theorem Tiles.pairwise_spans {start stop : Nat} {all : List Step} (h : Tiles start all stop) :
    (all.filterMap Step.span?).Pairwise fun a b => a.start < b.start ∧ a.stop ≤ b.start := by
  induction all generalizing start with
  | nil => exact .nil
  | cons first rest ih =>
    have hrest := h.2.2.2
    rcases first with ⟨span, body⟩ | _
    · refine List.pairwise_cons.mpr ⟨fun later hlater => ?_, ih hrest⟩
      have hspan : start ≤ span.start ∧ span.start < span.stop ∧ span.stop ≤ stop :=
        h.span_bounds List.mem_cons_self
      have hle : span.stop ≤ later.start := (hrest.span_bounds hlater).1
      omega
    · exact ih hrest

/-- A token lies in the text that is scanned, and is not empty. -/
theorem spansFrom_bounds {text : Text} {span : Span}
    (h : span ∈ spansFrom rules previous position text) :
    position ≤ span.start ∧ span.start < span.stop ∧ span.stop ≤ position + text.length :=
  (tiles_stepsFrom rules previous position text).span_bounds h

/-- Whether the character at an offset belongs to a token. -/
def Span.Covers (span : Span) (offset : Nat) : Prop := span.start ≤ offset ∧ offset < span.stop

instance (span : Span) (offset : Nat) : Decidable (span.Covers offset) :=
  inferInstanceAs (Decidable (_ ∧ _))

theorem Step.span?_shift (distance : Nat) (step : Step) :
    (step.shift distance).span? = step.span?.map (Span.shift distance) := by
  cases step <;> rfl

theorem spansFrom_shift (rules : List Rule) (previous : Option Char) (position : Nat) (text : Text)
    (distance : Nat) :
    spansFrom rules previous (position + distance) text =
      (spansFrom rules previous position text).map (Span.shift distance) := by
  have hshift : Step.span? ∘ Step.shift distance =
      fun step => step.span?.map (Span.shift distance) :=
    funext fun step => step.span?_shift distance
  rw [spansFrom, stepsFrom_shift, List.filterMap_map, hshift, ← List.map_filterMap, spansFrom]

/-- A token at an offset, put at the same distance from another offset. -/
def Span.rebase (source target : Nat) (span : Span) : Span :=
  ⟨span.start - source + target, span.stop - source + target, span.rule⟩

theorem Span.rebase_shift (source target : Nat) (span : Span) :
    (span.shift source).rebase source target = span.shift target := by
  simp [Span.shift, Span.rebase]

/-- A scan that starts at another offset finds the same tokens there. -/
theorem spansFrom_rebase (rules : List Rule) (previous : Option Char) (position : Nat)
    (text : Text) (source target : Nat) :
    (spansFrom rules previous (position + source) text).map (Span.rebase source target) =
      spansFrom rules previous (position + target) text := by
  rw [spansFrom_shift, spansFrom_shift, List.map_map]
  exact List.map_congr_left fun span _ => span.rebase_shift source target

/-- A token that is found at the start of a text is the one that the first rule finds. -/
theorem firstMatch?_of_mem_spansFrom {text : Text} {rule : Rule} {n : Nat}
    (h : ⟨position, position + n, rule⟩ ∈ spansFrom rules previous position text) :
    Rule.firstMatch? rules previous text = some (rule, n) := by
  cases hfirst : Rule.firstMatch? rules previous text with
  | some found =>
    obtain ⟨other, m⟩ := found
    have hpos := (Rule.firstMatch?_bounds hfirst).1
    rw [spansFrom_token hfirst] at h
    rcases List.mem_cons.mp h with heq | hmem
    · obtain ⟨-, hstop, rfl⟩ := Span.mk.inj heq
      rw [Nat.add_left_cancel hstop]
    · have := spansFrom_bounds hmem
      dsimp only at this
      omega
  | none =>
    rcases text with _ | ⟨c, rest⟩
    · cases h
    · rw [spansFrom_plain hfirst] at h
      have := spansFrom_bounds h
      dsimp only at this
      omega

/-! ## Going on from an offset -/

/-- Whether a token lies on both sides of an offset. -/
def Span.Crosses (span : Span) (offset : Nat) : Prop := span.start < offset ∧ offset < span.stop

instance (span : Span) (offset : Nat) : Decidable (span.Crosses offset) :=
  inferInstanceAs (Decidable (_ ∧ _))

/-- Two texts that cannot be told apart from before them: the first rule finds a token that does
not reach into the one where it finds it before the other. -/
def Interchangeable (rules : List Rule) (text other : Text) : Prop :=
  ∀ (previous : Option Char) (before : Text), before ≠ [] →
    (∀ rule n, Rule.firstMatch? rules previous (before ++ text) = some (rule, n) →
      n ≤ before.length) →
    Rule.firstMatch? rules previous (before ++ other) =
      Rule.firstMatch? rules previous (before ++ text)

theorem Interchangeable.refl (rules : List Rule) (text : Text) :
    Interchangeable rules text text := fun _ _ _ _ => rfl

/-- No token crosses the start of another. -/
theorem Tiles.not_crosses {start stop : Nat} {all : List Step} (h : Tiles start all stop)
    {span other : Span} (hspan : span ∈ all.filterMap Step.span?)
    (hother : other ∈ all.filterMap Step.span?) : ¬ span.Crosses other.start := by
  refine List.Pairwise.forall_of_forall_of_flip (R := fun a b => ¬ a.Crosses b.start)
    (fun a _ hcross => Nat.lt_irrefl _ hcross.1) ?_ ?_ hspan hother
  · refine h.pairwise_spans.imp fun hab => ?_
    rintro ⟨-, hstop⟩
    exact Nat.not_lt.mpr hab.2 hstop
  · refine h.pairwise_spans.imp fun hab => ?_
    rintro ⟨hstart, -⟩
    exact Nat.lt_asymm hab.1 hstart

theorem getLast?_append_or {head : Text} (hhead : head ≠ []) (tail : Text) :
    (head ++ tail).getLast?.or previous = tail.getLast?.or head.getLast? := by
  rw [List.getLast?_append, Option.or_assoc, List.getLast?_eq_some_getLast hhead, Option.some_or]

/-- **A scan goes on from an offset that no token crosses** as a scan that starts there, whichever
of two interchangeable texts it meets. -/
theorem stepsFrom_append {before text other : Text} (hother : Interchangeable rules text other)
    (h : ∀ span ∈ spansFrom rules previous position (before ++ text),
      ¬ span.Crosses (position + before.length)) :
    ∃ done, Tiles position done (position + before.length) ∧
      stepsFrom rules previous position 0 (before ++ text) =
        done ++ stepsFrom rules (before.getLast?.or previous) (position + before.length) 0 text ∧
      stepsFrom rules previous position 0 (before ++ other) =
        done ++ stepsFrom rules (before.getLast?.or previous) (position + before.length) 0 other := by
  generalize hwhole : before ++ text = whole at h ⊢
  induction previous, position, whole using scan_induction rules generalizing before with
  | nil previous position =>
    obtain ⟨rfl, rfl⟩ := List.append_eq_nil_iff.mp hwhole
    exact ⟨[], rfl, rfl, rfl⟩
  | plain previous position c rest hfirst ih =>
    rcases before with _ | ⟨d, before⟩
    · subst hwhole
      exact ⟨[], rfl, rfl, rfl⟩
    rw [List.cons_append] at hwhole
    obtain ⟨rfl, rfl⟩ := List.cons.inj hwhole
    have hsame : Rule.firstMatch? rules previous (d :: (before ++ other)) = none := by
      rw [← hfirst]
      refine hother previous (d :: before) (List.cons_ne_nil d before) fun rule n hn => ?_
      rw [List.cons_append, hfirst] at hn
      cases hn
    have hlen : position + (d :: before).length = position + 1 + before.length := by
      rw [List.length_cons, Nat.add_comm before.length, Nat.add_assoc]
    rw [spansFrom_plain hfirst, hlen] at h
    obtain ⟨done, htiles, htext, hgo⟩ := ih rfl h
    have hlast : (d :: before).getLast?.or previous = before.getLast?.or (some d) :=
      getLast?_append_or (List.cons_ne_nil d []) before
    refine ⟨.plain position d :: done, ?_⟩
    simp only [List.cons_append]
    rw [stepsFrom_plain hfirst, stepsFrom_plain hsame, htext, hgo, hlast, hlen]
    exact ⟨⟨rfl, List.cons_ne_nil d [], rfl, htiles⟩, rfl, rfl⟩
  | token previous position whole rule n hfirst ih =>
    subst hwhole
    by_cases hnil : before = []
    · subst hnil
      exact ⟨[], rfl, rfl, rfl⟩
    -- The first token ends before the offset; what it takes of the text is cut off in front.
    have hpos := List.length_pos_iff.mpr hnil
    rw [spansFrom_token hfirst] at h
    have hle : n ≤ before.length := by
      have hcross : ¬ (position < position + before.length ∧
          position + before.length < position + n) := h _ List.mem_cons_self
      omega
    obtain ⟨head, tail, rfl, rfl⟩ : ∃ head tail, before = head ++ tail ∧ head.length = n :=
      ⟨before.take n, before.drop n, (List.take_append_drop n before).symm,
        List.length_take_of_le hle⟩
    have hhead : head ≠ [] := List.length_pos_iff.mp (Rule.firstMatch?_bounds hfirst).1
    have hsame : Rule.firstMatch? rules previous (head ++ tail ++ other) =
        some (rule, head.length) := by
      rw [← hfirst]
      refine hother previous (head ++ tail) hnil fun other n hn => ?_
      rw [hfirst] at hn
      obtain ⟨-, rfl⟩ := Prod.mk.inj (Option.some.inj hn)
      exact hle
    have hlen : position + (head ++ tail).length = position + head.length + tail.length := by
      rw [List.length_append, Nat.add_assoc]
    rw [List.append_assoc, List.take_left, List.drop_left] at ih
    rw [List.append_assoc, List.take_left, List.drop_left, hlen] at h
    obtain ⟨done, htiles, htext, hgo⟩ := ih rfl fun span hspan => h span (.tail _ hspan)
    refine ⟨.token ⟨position, position + head.length, rule⟩ head :: done, ?_⟩
    rw [stepsFrom_token hfirst, stepsFrom_token hsame, getLast?_append_or hhead, hlen]
    simp only [List.append_assoc, List.take_left, List.drop_left]
    rw [htext, hgo]
    exact ⟨⟨rfl, hhead, rfl, htiles⟩, rfl, rfl⟩

/-- Every token is what the first rule finds where the token starts. -/
theorem firstMatch?_of_mem_spans {text : Text} {start n : Nat} {rule : Rule}
    (h : ⟨start, start + n, rule⟩ ∈ spans rules text) :
    Rule.firstMatch? rules (text.take start).getLast? (text.drop start) = some (rule, n) := by
  have hle : start ≤ text.length := by
    have hbounds : 0 ≤ start ∧ start < start + n ∧ start + n ≤ 0 + text.length :=
      spansFrom_bounds h
    omega
  have hlen : (text.take start).length = start := List.length_take_of_le hle
  have hcross : ∀ span ∈ spansFrom rules none 0 (text.take start ++ text.drop start),
      ¬ span.Crosses (0 + (text.take start).length) := by
    rw [List.take_append_drop, Nat.zero_add, hlen]
    exact fun span hspan => (tiles_steps rules text).not_crosses hspan h
  obtain ⟨done, htiles, hsteps, -⟩ := stepsFrom_append (.refl rules (text.drop start)) hcross
  rw [Nat.zero_add, hlen] at htiles hsteps
  rw [List.take_append_drop, Option.or_none] at hsteps
  rw [spans, steps, hsteps, List.filterMap_append, List.mem_append] at h
  rcases h with hmem | hmem
  · have hbounds : 0 ≤ start ∧ start < start + n ∧ start + n ≤ start := htiles.span_bounds hmem
    omega
  · exact firstMatch?_of_mem_spansFrom hmem

/-- Every token has a width, which is what the first rule finds where the token starts. -/
theorem width_of_mem_spans {text : Text} {start stop : Nat} {rule : Rule}
    (h : ⟨start, stop, rule⟩ ∈ spans rules text) :
    ∃ n, 0 < n ∧ stop = start + n ∧
      Rule.firstMatch? rules (text.take start).getLast? (text.drop start) = some (rule, n) := by
  have hlt : start < stop := (spansFrom_bounds h).2.1
  obtain ⟨n, rfl⟩ := Nat.exists_eq_add_of_le (Nat.le_of_lt hlt)
  exact ⟨n, Nat.lt_add_right_iff_pos.mp hlt, rfl, firstMatch?_of_mem_spans h⟩

end Highlighter
