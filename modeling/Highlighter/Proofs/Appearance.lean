import Highlighter.Proofs.Display
import Highlighter.Proofs.Scan
import Highlighter.Theme

/-!
# How rendered text appears

A display that reads what a theme renders shows the text, with the style of each token.

* `reads_richDisplay`, `reads_terminal`: each display reads the tags and the characters that its
  markup writes.
* `plays_render`: what a display shows, step by step.
* `show?_render`: what it shows, character by character.
-/

namespace Highlighter

theorem before?_append {last : Char} {body : Text} (h : last ∉ body) (rest : Text) :
    before? last (body ++ last :: rest) = some body := by
  have hbody : ∀ c ∈ body, decide (c ≠ last) = true := by
    intro c hc
    rw [decide_eq_true_eq]
    rintro rfl
    exact h hc
  rw [before?, if_pos (by simp), List.takeWhile_append_of_pos hbody,
    List.takeWhile_cons_of_neg (by simp), List.append_nil]

/-! ## Rich text -/

section Rich

variable {traits : List Trait}

/-- A tag leads to the state that it enters. -/
theorem plays_tag {next : RichState} (name : Text) (hname : '>' ∉ name)
    (h : RichState.enter? traits name = some next) :
    Plays richDisplay ⟨traits, false⟩ ('<' :: (name ++ ['>'])) [] next := by
  refine .control (List.cons_ne_nil _ _) fun rest => ?_
  rw [List.cons_append, List.append_assoc, List.singleton_append, List.length_cons,
    List.length_append]
  exact RichState.read_tag (before?_append hname rest) h

theorem plays_opening (traits : List Trait) (trait : Trait) :
    Plays richDisplay ⟨traits, false⟩ (trait.mark .richText .full .opening) []
      ⟨trait :: traits, false⟩ := by
  cases trait with
  | color mix =>
    have henter : RichState.enter? traits ("color=#".toList ++ mix.hex) =
        if "color=#".toList ++ mix.hex = "noparse".toList then some ⟨traits, true⟩
        else ((Rgb.ofHex? mix.hex).map Trait.color).map fun trait => ⟨trait :: traits, false⟩ := rfl
    have hname : "color=#".toList ++ mix.hex ≠ "noparse".toList :=
      fun h => absurd (List.cons.inj h).1 (by decide : 'c' ≠ 'n')
    rw [if_neg hname, Rgb.ofHex?_hex] at henter
    refine plays_tag ("color=#".toList ++ mix.hex) ?_ henter
    rw [List.mem_append, not_or]
    exact ⟨by decide, not_mem_hex mix⟩
  | bold => exact plays_tag ['b'] (by decide) rfl
  | italic => exact plays_tag ['i'] (by decide) rfl

theorem plays_closing (traits : List Trait) (trait : Trait) :
    Plays richDisplay ⟨trait :: traits, false⟩ (trait.mark .richText .full .closing) []
      ⟨traits, false⟩ := by
  have henter : RichState.enter? (trait :: traits) ('/' :: trait.tagName) = some ⟨traits, false⟩ :=
    if_pos rfl
  cases trait with
  | color mix => exact plays_tag "/color".toList (by decide) henter
  | bold => exact plays_tag "/b".toList (by decide) henter
  | italic => exact plays_tag "/i".toList (by decide) henter

/-- Tags that are opened one after the other are all open, the last one innermost. -/
theorem plays_openings (traits all : List Trait) :
    Plays richDisplay ⟨traits, false⟩ (all.flatMap (Trait.mark .richText .full .opening)) []
      ⟨all.reverse ++ traits, false⟩ := by
  induction all generalizing traits with
  | nil => exact .nil richDisplay _
  | cons trait all ih =>
    rw [List.flatMap_cons, List.reverse_cons, List.append_assoc, List.singleton_append]
    exact (plays_opening traits trait).append (ih (trait :: traits))

/-- Tags are closed from the inside out. -/
theorem plays_closings (traits all : List Trait) :
    Plays richDisplay ⟨all ++ traits, false⟩ (all.flatMap (Trait.mark .richText .full .closing)) []
      ⟨traits, false⟩ := by
  induction all with
  | nil => exact .nil richDisplay _
  | cons trait all ih =>
    rw [List.flatMap_cons, List.cons_append]
    exact (plays_closing (all ++ traits) trait).append ih

/-- A bracket in the text is shown between two tags that make it literal. -/
theorem plays_escape_richText (traits : List Trait) (c : Char) :
    Plays richDisplay ⟨traits, false⟩ (Markup.richText.escape c)
      (Markup.richText.cells c (richDisplay.look ⟨traits, false⟩)) ⟨traits, false⟩ := by
  rw [escape_richText]
  by_cases hc : c = '<'
  · subst hc
    have hopen : Plays richDisplay ⟨traits, false⟩ "<noparse>".toList [] ⟨traits, true⟩ :=
      plays_tag "noparse".toList (by decide) rfl
    have hclose : Plays richDisplay ⟨traits, true⟩ "</noparse>".toList [] ⟨traits, false⟩ := by
      refine .control (by decide) fun rest => ?_
      exact (RichState.read_literal traits ("</noparse>".toList ++ rest)).trans
        (if_pos (List.prefix_append _ rest))
    -- The bracket is not the one of the second tag, which has a slash behind it.
    have hshown : ∀ rest, richDisplay.play ⟨traits, true⟩ 0 ('<' :: ("</noparse>".toList ++ rest)) =
        (richDisplay.play ⟨traits, true⟩ 0 ("</noparse>".toList ++ rest)).map
          (Prod.map (⟨'<', richDisplay.look ⟨traits, false⟩⟩ :: ·) id) := by
      intro rest
      have hread : richDisplay.read ⟨traits, true⟩ ('<' :: ("</noparse>".toList ++ rest)) =
          .shown := by
        refine (RichState.read_literal traits ('<' :: ("</noparse>".toList ++ rest))).trans
          (if_neg fun h => ?_)
        exact absurd (List.cons_prefix_cons.mp (List.cons_prefix_cons.mp h).2).1 (by decide)
      rw [Display.play, hread]
      rfl
    rw [if_pos rfl]
    intro rest
    show richDisplay.play _ 0 ("<noparse>".toList ++ ('<' :: ("</noparse>".toList ++ rest))) = _
    rw [hopen, hshown, hclose]
    cases richDisplay.play ⟨traits, false⟩ 0 rest <;> rfl
  · rw [if_neg hc]
    exact .char fun rest => RichState.read_char hc traits rest

/-- What a tag encloses has the look of its style. -/
theorem look_reverse_traits (style : Style) :
    richDisplay.look ⟨style.traits.reverse, false⟩ = style.look := by
  rw [← style.foldl_set_traits, ← List.foldr_reverse]
  rfl

end Rich

/-! ## Terminals -/

theorem decimal?_decimal (n : Nat) : decimal? (Text.decimal n) = some n := by
  have hdigits : (Text.decimal n).all Char.isDigit = true := by
    rw [List.all_eq_true]
    intro c hc
    exact Nat.isDigit_of_mem_toDigits (by decide) (by decide) hc
  rw [decimal?, if_pos ⟨Nat.toDigits_ne_nil, hdigits⟩]
  exact congrArg some Nat.ofDigitChars_ten_toDigits

/-- The parameters of a color come back from what is written for them. -/
theorem parameters_color (mix : Rgb) :
    ((Tag.colorParameters .full mix).splitOn ';').mapM decimal? =
      some [38, 2, mix.red.toNat, mix.green.toNat, mix.blue.toNat] := by
  have hfields : Tag.colorParameters .full mix =
      [';'].intercalate ["38".toList, "2".toList, Text.decimal mix.red.toNat,
        Text.decimal mix.green.toNat, Text.decimal mix.blue.toNat] := by
    rw [Tag.colorParameters_full]
    simp [List.intercalate]
  rw [hfields, List.splitOn_intercalate]
  · have h38 : decimal? "38".toList = some 38 := by decide
    have h2 : decimal? "2".toList = some 2 := by decide
    simp only [List.mapM_cons, List.mapM_nil, h38, h2, decimal?_decimal]
    rfl
  · intro field hfield
    simp only [List.mem_cons, List.not_mem_nil, or_false] at hfield
    rcases hfield with rfl | rfl | rfl | rfl | rfl
    · decide
    · decide
    all_goals exact not_mem_decimal (by decide) _
  · exact List.cons_ne_nil _ _

theorem plays_escapeSequence {pen next : Look} {parameters : Text} (numbers : List Nat)
    (hm : 'm' ∉ parameters) (hnumbers : (parameters.splitOn ';').mapM decimal? = some numbers)
    (hnext : pen.select? numbers = some next) :
    Plays terminal pen (Tag.escapeSequence parameters) [] next := by
  refine .control (List.cons_ne_nil _ _) fun rest => ?_
  rw [Tag.escapeSequence, List.append_assoc, List.singleton_append, List.length_append]
  exact Look.read_escapeSequence (before?_append hm rest) hnumbers hnext

theorem plays_set (pen : Look) (trait : Trait) :
    Plays terminal pen (trait.mark .ansi .full .opening) [] (pen.set trait) := by
  cases trait with
  | color mix =>
    refine plays_escapeSequence _ (not_mem_colorParameters .full mix) (parameters_color mix) ?_
    rw [Look.select?, if_pos ⟨mix.red.toNat_lt, mix.green.toNat_lt, mix.blue.toNat_lt⟩,
      UInt8.ofNat_toNat, UInt8.ofNat_toNat, UInt8.ofNat_toNat]
  | bold => exact plays_escapeSequence [1] (by decide) (by decide) rfl
  | italic => exact plays_escapeSequence [3] (by decide) (by decide) rfl

/-- Escape sequences that are sent one after the other add up. -/
theorem plays_sets (pen : Look) (all : List Trait) :
    Plays terminal pen (all.flatMap (Trait.mark .ansi .full .opening)) []
      (all.foldl Look.set pen) := by
  induction all generalizing pen with
  | nil => exact .nil terminal pen
  | cons trait all ih =>
    rw [List.flatMap_cons, List.foldl_cons]
    exact (plays_set pen trait).append (ih (pen.set trait))

theorem plays_reset (pen : Look) : Plays terminal pen (Tag.escapeSequence ['0']) [] .plain :=
  plays_escapeSequence [0] (by decide) (by decide) rfl

/-- What is written for a character is shown as it is. -/
theorem plays_escape_ansi (pen : Look) (c : Char) :
    Plays terminal pen (Markup.ansi.escape c) (Markup.ansi.cells c pen) pen := by
  have hchar : ∀ d : Char, d ≠ '\x1b' → Plays terminal pen [d] [⟨d, pen⟩] pen :=
    fun d hd => .char fun rest => Look.read_char hd pen rest
  rw [escape_ansi, Markup.cells, Markup.shown]
  by_cases hesc : c = '\x1b'
  · rw [if_pos hesc]
    exact (hchar '\u241b' (by decide)).append (hchar '[' (by decide))
  · rw [if_neg hesc]
    by_cases hsymbol : c = '\u241b'
    · rw [if_pos hsymbol]
      exact (hchar '\u241b' (by decide)).append (hchar '\u241b' (by decide))
    · rw [if_neg hsymbol]
      exact hchar c hesc

/-! ## Displays that read a markup -/

section Reads

variable {State : Type}

/-- Whether a display shows in a state all characters that a markup writes. -/
def ShowsChars (display : Display State) (markup : Markup) (state : State) : Prop :=
  ∀ c, Plays display state (markup.escape c) (markup.cells c (display.look state)) state

/-- A display that shows what a markup writes: the characters outside all tags, and, for any style,
the characters within its tag, after which it is in its initial state again. -/
structure Reads (display : Display State) (markup : Markup) : Prop where
  look_initial : display.look display.initial = .plain
  initial : ShowsChars display markup display.initial
  tag (style : Style) : ∃ state, display.look state = style.look ∧ ShowsChars display markup state ∧
    Plays display display.initial (Tag.ofStyle markup .full style).opening [] state ∧
    Plays display state (Tag.ofStyle markup .full style).closing [] display.initial

/-- A display of rich text opens the tags of a style and closes them in the opposite order. -/
theorem reads_richDisplay : Reads richDisplay .richText where
  look_initial := rfl
  initial := plays_escape_richText []
  tag style := by
    refine ⟨⟨style.traits.reverse, false⟩, look_reverse_traits style,
      plays_escape_richText style.traits.reverse, ?_, ?_⟩
    · have hopenings := plays_openings [] style.traits
      rw [List.append_nil] at hopenings
      rwa [Tag.opening_ofStyle]
    · have hclosings := plays_closings [] style.traits.reverse
      rw [List.append_nil] at hclosings
      rwa [Tag.closing_richText]

/-- A terminal sets its pen to a style and resets it. -/
theorem reads_terminal : Reads terminal .ansi where
  look_initial := rfl
  initial := plays_escape_ansi .plain
  tag style := by
    refine ⟨style.look, rfl, plays_escape_ansi style.look, ?_, ?_⟩
    · rw [Tag.opening_ofStyle, ← style.foldl_set_traits]
      exact plays_sets .plain style.traits
    · rw [Tag.closing_ansi]
      by_cases hnil : style.traits = []
      · rw [if_pos hnil, ← style.foldl_set_traits, hnil]
        exact .nil terminal .plain
      · rw [if_neg hnil]
        exact plays_reset style.look

/-! ## Steps -/

/-- The look that a style map gives to what a scan goes past in one step. -/
def Step.look (styles : StyleMap) : Step → Look
  | token span _ => (styles.effective span.tokenType).look
  | plain .. => .plain

theorem Span.tokenType_ne_default (span : Span) : span.tokenType ≠ .default := by
  rw [tokenType]
  cases span.rule <;> decide

variable {display : Display State} {markup : Markup}

theorem plays_escape {state : State} (h : ShowsChars display markup state) (text : Text) :
    Plays display state (text.flatMap markup.escape)
      (text.flatMap (markup.cells · (display.look state))) state :=
  .flatMap fun c _ => h c

/-- A step is shown with its look, and no look is left over. -/
theorem plays_renderStep (h : Reads display markup) (styles : StyleMap) (step : Step) :
    Plays display display.initial ((Theme.ofStyles .full markup styles).renderStep step)
      (step.text.flatMap (markup.cells · (step.look styles))) display.initial := by
  rcases step with ⟨span, text⟩ | ⟨position, c⟩
  · have htag : (Theme.ofStyles .full markup styles).tags span.tokenType =
        .ofStyle markup .full (styles.effective span.tokenType) :=
      if_neg span.tokenType_ne_default
    obtain ⟨state, hlook, hshows, hopening, hclosing⟩ := h.tag (styles.effective span.tokenType)
    have hbody := plays_escape hshows text
    rw [hlook] at hbody
    have hstep := (hopening.append hbody).append hclosing
    rw [List.nil_append, List.append_nil] at hstep
    rw [Theme.renderStep, Theme.wrap, htag]
    exact hstep
  · have hchar := h.initial c
    rw [h.look_initial] at hchar
    rw [Step.text, List.flatMap_singleton]
    exact hchar

theorem plays_render (h : Reads display markup) (styles : StyleMap) (rules : List Rule)
    (text : Text) :
    Plays display display.initial ((Theme.ofStyles .full markup styles).render rules text)
      ((steps rules text).flatMap fun step =>
        step.text.flatMap (markup.cells · (step.look styles)))
      display.initial :=
  .flatMap fun step _ => plays_renderStep h styles step

end Reads

/-! ## Characters -/

/-- Where steps tile a text, a character is given the look of the step that goes past it. -/
theorem Tiles.exists_look {start stop : Nat} {all : List Step} (h : Tiles start all stop)
    (styles : StyleMap) :
    ∃ look : Nat → Look,
      (∀ step ∈ all, ∀ i, step.start ≤ i → i < step.stop → look i = step.look styles) ∧
      ∀ i, (∀ step ∈ all, ¬ (step.start ≤ i ∧ i < step.stop)) → look i = .plain := by
  induction all generalizing start with
  | nil => exact ⟨fun _ => .plain, fun _ hstep => absurd hstep List.not_mem_nil, fun _ _ => rfl⟩
  | cons first rest ih =>
    obtain ⟨-, -, -, hrest⟩ := h
    obtain ⟨look, hcovered, hplain⟩ := ih hrest
    refine ⟨fun i => if first.start ≤ i ∧ i < first.stop then first.look styles else look i, ?_, ?_⟩
    · intro step hstep i hle hlt
      rcases List.mem_cons.mp hstep with rfl | hmem
      · exact if_pos ⟨hle, hlt⟩
      · have hbounds := hrest.bounds hmem
        exact (if_neg (by omega)).trans (hcovered step hmem i hle hlt)
    · intro i hi
      exact (if_neg (hi first List.mem_cons_self)).trans
        (hplain i fun step hmem => hi step (List.mem_cons_of_mem first hmem))

theorem flatMap_zipIdx {α : Type} {look : Nat → Look} {same : Look} (f : Char → Look → List α)
    (text : Text) (start : Nat)
    (h : ∀ i, start ≤ i → i < start + text.length → look i = same) :
    (text.zipIdx start).flatMap (fun (c, i) => f c (look i)) = text.flatMap (f · same) := by
  induction text generalizing start with
  | nil => rfl
  | cons c text ih =>
    rw [List.length_cons] at h
    rw [List.zipIdx_cons, List.flatMap_cons, List.flatMap_cons,
      ih (start + 1) fun i hle hlt => h i (by omega) (by omega)]
    show f c (look start) ++ _ = _
    rw [h start (Nat.le_refl _) (by omega)]

/-- Going through a text step by step or character by character is the same. -/
theorem Tiles.flatMap_zipIdx {α : Type} {start stop : Nat} {all : List Step}
    (h : Tiles start all stop) {styles : StyleMap} {look : Nat → Look}
    (hlook : ∀ step ∈ all, ∀ i, step.start ≤ i → i < step.stop → look i = step.look styles)
    (f : Char → Look → List α) :
    ((all.flatMap Step.text).zipIdx start).flatMap (fun (c, i) => f c (look i)) =
      all.flatMap fun step => step.text.flatMap (f · (step.look styles)) := by
  induction all generalizing start with
  | nil => rfl
  | cons first rest ih =>
    obtain ⟨rfl, -, hstop, hrest⟩ := h
    rw [List.flatMap_cons, List.flatMap_cons, List.zipIdx_append, List.flatMap_append, ← hstop,
      ih hrest fun step hmem => hlook step (List.mem_cons_of_mem first hmem)]
    congr 1
    refine Highlighter.flatMap_zipIdx f first.text first.start fun i hle hlt => ?_
    exact hlook first List.mem_cons_self i hle (by omega)

/-- **What is rendered appears as it should.** The display of a markup knows all that is rendered
and ends in its initial state. It shows the text character by character, each with the style of the
token that covers it, or plain if no token does. -/
theorem show?_render (markup : Markup) (styles : StyleMap) (rules : List Rule) (text : Text) :
    ∃ look : Nat → Look,
      markup.show? ((Theme.ofStyles .full markup styles).render rules text) =
          some (text.zipIdx.flatMap fun (c, i) => markup.cells c (look i)) ∧
        (∀ span ∈ spans rules text, ∀ i, span.Covers i →
          look i = (styles.effective span.tokenType).look) ∧
        ∀ i, (∀ span ∈ spans rules text, ¬ span.Covers i) → look i = .plain := by
  have htiles := tiles_stepsFrom rules none 0 text
  obtain ⟨look, hcovered, hplain⟩ := htiles.exists_look styles
  have hcells := htiles.flatMap_zipIdx hcovered markup.cells
  rw [flatMap_text_stepsFrom] at hcells
  refine ⟨look, ?_, ?_, ?_⟩
  · rw [hcells]
    cases markup with
    | richText => exact (plays_render reads_richDisplay styles rules text).show?
    | ansi => exact (plays_render reads_terminal styles rules text).show?
  · intro span hspan i hi
    obtain ⟨step, hstep, heq⟩ := List.mem_filterMap.mp hspan
    rcases step with ⟨token, body⟩ | _
    · obtain rfl := Option.some.inj heq
      exact hcovered _ hstep i hi.1 hi.2
    · cases heq
  · intro i hi
    by_cases hexists : ∃ step ∈ steps rules text, step.start ≤ i ∧ i < step.stop
    · obtain ⟨step, hstep, hle, hlt⟩ := hexists
      rw [hcovered step hstep i hle hlt]
      rcases step with ⟨token, body⟩ | _
      · exact absurd ⟨hle, hlt⟩ (hi token (List.mem_filterMap.mpr ⟨_, hstep, rfl⟩))
      · rfl
    · exact hplain i fun step hstep hcover => hexists ⟨step, hstep, hcover⟩

end Highlighter
