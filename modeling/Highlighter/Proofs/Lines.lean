import Highlighter.Proofs.Cut
import Highlighter.Proofs.Scan
import Highlighter.Theme

/-!
# Line by line

A text can be highlighted line by line where no token goes over the end of a line: no string, no
character literal and no block comment is open there.

* `stepsFrom_line`: the steps of a text are those of its first line, one for the line end and those
  of the rest.
* `spans_render_line`: the tokens of a text, and the text as a theme renders it, line by line.
-/

namespace Highlighter

variable {rules : List Rule} {previous : Option Char} {position : Nat} {line : Text} {c : Char}

/-! ## Steps -/

/-- The end of a line is gone past as a plain character, and a text after it is scanned as one with
nothing before it. -/
theorem stepsFrom_newline (hc : isNewline c) (rest : Text) :
    stepsFrom rules previous position 0 (c :: rest) =
      .plain position c :: (steps rules rest).map (Step.shift (position + 1)) := by
  have hboundary : atBoundary (some c) = atBoundary none := atBoundary_of_isNewline hc
  have hat : some c = some '@' ↔ none = some '@' := by
    constructor
    · intro h
      rw [Option.some.inj h] at hc
      exact absurd hc (by decide)
    · intro h
      cases h
  have hshift := stepsFrom_shift rules none 0 rest (position + 1)
  rw [Nat.zero_add] at hshift
  rw [stepsFrom_plain (Rule.firstMatch?_of_isNewline hc rest), stepsFrom_congr hboundary hat,
    hshift, steps]

/-- Where no token goes over the end of a line, the first rule finds what it finds in the line
alone. -/
theorem firstMatch?_line (hc : isNewline c) (hline : line ≠ [])
    (h : ∀ span ∈ spansFrom rules previous position (line ++ [c]),
      ¬ span.Covers (position + line.length)) (rest : Text) :
    Rule.firstMatch? rules previous (line ++ c :: rest) =
      Rule.firstMatch? rules previous line := by
  rcases Rule.firstMatch?_newline hc hline rules previous with hpast | heq
  · obtain ⟨rule, n, hfirst, hlt⟩ := hpast []
    rw [spansFrom_token hfirst] at h
    exact absurd ⟨Nat.le_add_right _ _, Nat.add_lt_add_left hlt position⟩ (h _ List.mem_cons_self)
  · exact heq rest

theorem stepsFrom_line (hc : isNewline c)
    (h : ∀ span ∈ spansFrom rules previous position (line ++ [c]),
      ¬ span.Covers (position + line.length)) (rest : Text) :
    stepsFrom rules previous position 0 (line ++ c :: rest) =
      stepsFrom rules previous position 0 line ++ .plain (position + line.length) c ::
        (steps rules rest).map (Step.shift (position + line.length + 1)) := by
  induction previous, position, line using scan_induction rules with
  | nil previous position => exact stepsFrom_newline hc rest
  | plain previous position a line hfirst ih =>
    have heq := firstMatch?_line hc (List.cons_ne_nil a line) h
    have hlen : position + (a :: line).length = position + 1 + line.length := by
      rw [List.length_cons, Nat.add_comm line.length, Nat.add_assoc]
    rw [hfirst] at heq
    simp only [List.cons_append] at h heq ⊢
    rw [spansFrom_plain (heq []), hlen] at h
    rw [stepsFrom_plain (heq rest), stepsFrom_plain hfirst, ih h, hlen, List.cons_append]
  | token previous position line rule n hfirst ih =>
    obtain ⟨hpos, hle⟩ := Rule.firstMatch?_bounds hfirst
    have hline : line ≠ [] := List.length_pos_iff.mp (Nat.lt_of_lt_of_le hpos hle)
    have heq := firstMatch?_line hc hline h
    have hlen : position + line.length = position + n + (line.drop n).length := by
      rw [List.length_drop]
      omega
    rw [hfirst] at heq
    rw [spansFrom_token (heq []), List.take_append_of_le_length hle,
      List.drop_append_of_le_length hle, hlen] at h
    rw [stepsFrom_token (heq rest), stepsFrom_token hfirst, List.take_append_of_le_length hle,
      List.drop_append_of_le_length hle, hlen,
      ih fun span hspan => h span (List.mem_cons_of_mem _ hspan), List.cons_append]

/-! ## Tokens and markup -/

namespace Theme

theorem renderStep_shift (theme : Theme) (distance : Nat) (step : Step) :
    theme.renderStep (step.shift distance) = theme.renderStep step := by
  cases step <;> rfl

end Theme

/-- The end of a line is written as it is. -/
theorem Markup.escape_of_isNewline (hc : isNewline c) (markup : Markup) :
    markup.escape c = [c] := by
  rcases isNewline_iff.mp hc with rfl | rfl <;> cases markup <;> decide

/-- **A text is highlighted line by line.** Where no token goes over the end of a line, the tokens
of a text are those of its first line and, moved on, those of the rest, and what a theme renders is
the first line, the line end and the rest, each as it renders them alone. -/
theorem spans_render_line (theme : Theme) (rules : List Rule) (line rest : Text) (c : Char)
    (hc : isNewline c)
    (h : ∀ span ∈ spans rules (line ++ [c]), ¬ span.Covers line.length) :
    spans rules (line ++ c :: rest) =
        spans rules line ++ (spans rules rest).map (Span.shift (line.length + 1)) ∧
      theme.render rules (line ++ c :: rest) =
        theme.render rules line ++ c :: theme.render rules rest := by
  have hsteps : steps rules (line ++ c :: rest) =
      steps rules line ++ .plain line.length c ::
        (steps rules rest).map (Step.shift (line.length + 1)) := by
    have hclosed : ∀ span ∈ spansFrom rules none 0 (line ++ [c]),
        ¬ span.Covers (0 + line.length) := by
      rwa [Nat.zero_add]
    have hline := stepsFrom_line hc hclosed rest
    rwa [Nat.zero_add] at hline
  constructor
  · have hshift : Step.span? ∘ Step.shift (line.length + 1) =
        fun step => step.span?.map (Span.shift (line.length + 1)) :=
      funext fun step => step.span?_shift _
    rw [spans, hsteps, List.filterMap_append, List.filterMap_cons_none rfl, List.filterMap_map,
      hshift, ← List.map_filterMap, spans, spans]
  · have hshift : (fun step => theme.renderStep (step.shift (line.length + 1))) =
        theme.renderStep :=
      funext fun step => theme.renderStep_shift _ step
    rw [Theme.render, hsteps, List.flatMap_append, List.flatMap_cons, List.flatMap_map, hshift,
      Theme.renderStep, Markup.escape_of_isNewline hc, List.singleton_append, Theme.render,
      Theme.render]

/-- The quote in the comment of the first line does not reach the second line. -/
theorem spans_render_two_lines :
    isNewline '\n' ∧
      (∀ span ∈ spans Rule.priority ("if // '".toList ++ ['\n']), ¬ span.Covers 7) ∧
      spans Rule.priority "if // '\n'b' 1".toList =
        [⟨0, 2, .keyword⟩, ⟨3, 7, .lineComment⟩, ⟨8, 11, .charLiteral⟩, ⟨12, 13, .number⟩] ∧
      (Theme.ofMarkup .full .richText).render Rule.priority "if // '\n'b' 1".toList =
        (Theme.ofMarkup .full .richText).render Rule.priority "if // '".toList ++
          '\n' :: (Theme.ofMarkup .full .richText).render Rule.priority "'b' 1".toList := by
  have hc : isNewline '\n' := by decide
  have h : ∀ span ∈ spans Rule.priority ("if // '".toList ++ ['\n']), ¬ span.Covers 7 := by decide
  obtain ⟨hspans, hrender⟩ := spans_render_line (Theme.ofMarkup .full .richText) Rule.priority
    "if // '".toList "'b' 1".toList '\n' hc h
  exact ⟨hc, h, hspans.trans (by decide), hrender⟩

end Highlighter
