import Highlighter.Proofs.Marks
import Highlighter.Proofs.Pieces
import Highlighter.Proofs.Scan

/-!
# Stripping what was rendered

Stripping is not told where markup was written. It finds the pieces that were written because no
other piece of the same theme stands where one of them does, unless it is shorter.

* `length_row_le`: no longer row of marks stands where one was written.
* `strip_part`: a part of a tag is taken out, unless more marks of its side come right after it.
* `strip_escape`: what was written for a character is turned back into it.
* `strip_render`: a text comes back from what any theme renders of it.
-/

namespace Highlighter

variable {markup : Markup} {colors : ColorOutput} {side : Side}

/-! ## Rows of marks -/

/-- Whether a text begins with a mark that opens, or with one that closes. -/
def Begins (markup : Markup) (colors : ColorOutput) (side : Side) (text : Text) : Prop :=
  ∃ trait : Trait, trait.mark markup colors side <+: text

/-- What a markup writes to open or to close traits one after the other. -/
def row (markup : Markup) (colors : ColorOutput) (side : Side) (traits : List Trait) : Text :=
  traits.flatMap (Trait.mark markup colors side)

theorem not_begins_nil : ¬ Begins markup colors side [] := by
  rintro ⟨trait, hpre⟩
  exact mark_ne_nil trait (List.prefix_nil.mp hpre)

theorem not_begins_escape (c : Char) (rest : Text) :
    ¬ Begins markup colors side (markup.escape c ++ rest) := by
  rintro ⟨trait, hpre⟩
  exact mark_not_prefix_escape trait c rest hpre

theorem Begins.append {text : Text} (h : Begins markup colors side text) (rest : Text) :
    Begins markup colors side (text ++ rest) := by
  obtain ⟨trait, hpre⟩ := h
  exact ⟨trait, hpre.trans (List.prefix_append text rest)⟩

/-- A text does not begin with both a mark that opens and one that closes. -/
theorem Begins.side_eq {side' : Side} {text : Text} (h : Begins markup colors side text)
    (h' : Begins markup colors side' text) : side = side' := by
  obtain ⟨a, ha⟩ := h
  obtain ⟨b, hb⟩ := h'
  have heq := (terminated_mark markup colors side a).unique (terminated_mark markup colors side' b)
    ha hb
  cases side <;> cases side'
  · rfl
  · exact absurd heq (mark_opening_ne_closing a b)
  · exact absurd heq.symm (mark_opening_ne_closing b a)
  · rfl

theorem begins_row {traits : List Trait} (h : row markup colors side traits ≠ []) :
    Begins markup colors side (row markup colors side traits) := by
  rcases traits with _ | ⟨trait, traits⟩
  · exact absurd rfl h
  · exact ⟨trait, List.prefix_append _ _⟩

/-- **Marks are told apart.** A row of marks that stands where another one was written is not
longer, unless the text after that one begins with a mark of the same side. -/
theorem length_row_le {written found : List Trait} {rest : Text}
    (hrest : ¬ Begins markup colors side rest)
    (h : row markup colors side found <+: row markup colors side written ++ rest) :
    (row markup colors side found).length ≤ (row markup colors side written).length := by
  induction found generalizing written with
  | nil => exact Nat.zero_le _
  | cons b found ih =>
    rw [row, List.flatMap_cons] at h ⊢
    rcases written with _ | ⟨a, written⟩
    · exact absurd ⟨b, (List.prefix_append _ _).trans h⟩ hrest
    · rw [row, List.flatMap_cons, List.append_assoc] at h
      have heq : b.mark markup colors side = a.mark markup colors side :=
        (terminated_mark markup colors side b).unique (terminated_mark markup colors side a)
          ((List.prefix_append _ _).trans h) (List.prefix_append _ _)
      rw [heq, List.prefix_append_right_inj] at h
      rw [row, List.flatMap_cons, heq, List.length_append, List.length_append]
      exact Nat.add_le_add_left (ih h) _

/-! ## Pieces of a theme -/

/-- One of the two parts of a tag. -/
def Tag.part (tag : Tag) : Side → Text
  | .opening => tag.opening
  | .closing => tag.closing

/-- A part of a tag is a row of marks. -/
theorem Tag.exists_row (markup : Markup) (colors : ColorOutput) (style : Style) (side : Side) :
    ∃ traits, (ofStyle markup colors style).part side = row markup colors side traits := by
  cases side with
  | opening => exact ⟨style.traits, opening_ofStyle⟩
  | closing =>
    cases markup with
    | richText => exact ⟨style.traits.reverse, closing_richText⟩
    | ansi =>
      rw [part, closing_ansi]
      split
      · exact ⟨[], rfl⟩
      · exact ⟨[.bold], rfl⟩

namespace Theme

variable {styles : StyleMap}

theorem tags_ofStyles (type : TokenType) :
    (ofStyles colors markup styles).tags type =
      if type = .default then .empty else .ofStyle markup colors (styles.effective type) := rfl

theorem part_ofStyles (colors : ColorOutput) (markup : Markup) (styles : StyleMap)
    (type : TokenType) (side : Side) :
    ((ofStyles colors markup styles).tags type).part side = [] ∨
      ((ofStyles colors markup styles).tags type).part side ∈
        (ofStyles colors markup styles).pieces := by
  by_cases hnil : ((ofStyles colors markup styles).tags type).part side = []
  · exact .inl hnil
  · refine .inr (mem_pieces.mpr ⟨hnil, .inl ⟨type, ?_, ?_⟩⟩)
    · rw [TokenType.mem_styled_iff]
      rintro rfl
      cases side <;> exact hnil rfl
    · cases side
      · exact .inl rfl
      · exact .inr rfl

theorem exists_row_ofStyles (colors : ColorOutput) (markup : Markup) (styles : StyleMap)
    (type : TokenType) (side : Side) :
    ∃ traits, ((ofStyles colors markup styles).tags type).part side =
      row markup colors side traits := by
  rw [tags_ofStyles]
  split
  · cases side <;> exact ⟨[], rfl⟩
  · exact Tag.exists_row markup colors _ side

/-- A piece of a theme is a row of marks, or written for a character. -/
theorem of_mem_pieces {piece : Text} (h : piece ∈ (ofStyles colors markup styles).pieces) :
    (∃ side traits, piece = row markup colors side traits) ∨
      piece ∈ markup.escapes.map (·.2) := by
  obtain ⟨-, ⟨type, -, hpart⟩ | hescape⟩ := mem_pieces.mp h
  · left
    rcases hpart with rfl | rfl
    · exact ⟨.opening, exists_row_ofStyles colors markup styles type .opening⟩
    · exact ⟨.closing, exists_row_ofStyles colors markup styles type .closing⟩
  · exact .inr hescape

/-- No piece stands for a character where a mark was written. -/
theorem not_escape_of_begins {piece text : Text} (h : Begins markup colors side text)
    (hpre : piece <+: text) : piece ∉ markup.escapes.map (·.2) := by
  intro hmem
  obtain ⟨c, rfl⟩ := Markup.exists_of_mem_escapes hmem
  obtain ⟨rest, rfl⟩ := hpre
  exact not_begins_escape c rest h

/-- A row of marks stands for nothing. -/
theorem unescape_of_begins {piece : Text} (h : Begins markup colors side piece) :
    markup.unescape piece = [] := by
  have hfind : markup.escapes.find? (·.2 = piece) = none := by
    rw [List.find?_eq_none]
    intro escape hmem heq
    rw [decide_eq_true_eq] at heq
    exact not_escape_of_begins h (List.prefix_refl piece)
      (heq ▸ List.mem_map_of_mem hmem)
  rw [Markup.unescape, hfind]

/-! ## Stripping -/

/-- **A part of a tag is taken out**, unless more marks of its side come right after it. -/
theorem strip_part (type : TokenType) {rest : Text} (hrest : ¬ Begins markup colors side rest) :
    (ofStyles colors markup styles).strip
        (((ofStyles colors markup styles).tags type).part side ++ rest) =
      (ofStyles colors markup styles).strip rest := by
  rcases part_ofStyles colors markup styles type side with hnil | hmem
  · rw [hnil, List.nil_append]
  obtain ⟨traits, hrow⟩ := exists_row_ofStyles colors markup styles type side
  rw [hrow] at hmem ⊢
  have hbegins := begins_row (mem_pieces.mp hmem).1
  rw [strip_piece hmem]
  · show markup.unescape _ ++ _ = _
    rw [unescape_of_begins hbegins, List.nil_append]
  · intro other hother hpre
    rcases of_mem_pieces hother with ⟨side', traits', rfl⟩ | hescape
    · obtain ⟨trait, hmark⟩ := begins_row (mem_pieces.mp hother).1
      obtain rfl := (hbegins.append rest).side_eq ⟨trait, hmark.trans hpre⟩
      exact length_row_le hrest hpre
    · exact absurd hescape (not_escape_of_begins (hbegins.append rest) hpre)

/-- **What was written for a character is turned back** into it. -/
theorem strip_escape (c : Char) (rest : Text) :
    (ofStyles colors markup styles).strip (markup.escape c ++ rest) =
      c :: (ofStyles colors markup styles).strip rest := by
  have hmark : ∀ other ∈ (ofStyles colors markup styles).pieces,
      other <+: markup.escape c ++ rest → other ∈ markup.escapes.map (·.2) := by
    intro other hother hpre
    rcases of_mem_pieces hother with ⟨side, traits, rfl⟩ | hescape
    · obtain ⟨trait, hmark⟩ := begins_row (mem_pieces.mp hother).1
      exact absurd ⟨trait, hmark.trans hpre⟩ (not_begins_escape c rest)
    · exact hescape
  rcases markup.escape_cases c with ⟨hself, hnot⟩ | ⟨hmem, hback⟩
  · have hchar : ∀ other ∈ (ofStyles colors markup styles).pieces, ¬ other <+: c :: rest := by
      intro other hother hpre
      rw [← List.singleton_append, ← hself] at hpre
      have hescape := hmark other hother hpre
      rw [Markup.eq_escape_of_prefix hescape hpre, hself] at hescape
      exact hnot hescape
    rw [hself, List.singleton_append, strip_char hchar]
  · rw [strip_piece]
    · show markup.unescape _ ++ _ = _
      rw [hback, List.singleton_append]
    · refine mem_pieces.mpr ⟨fun hnil => ?_, .inr hmem⟩
      rw [hnil] at hmem
      exact Markup.nil_not_mem_escapes markup hmem
    · intro other hother hpre
      rw [Markup.eq_escape_of_prefix (hmark other hother hpre) hpre]

theorem strip_escapes (text rest : Text) :
    (ofStyles colors markup styles).strip ((ofStyles colors markup styles).escape text ++ rest) =
      text ++ (ofStyles colors markup styles).strip rest := by
  induction text with
  | nil => rfl
  | cons c text ih =>
    rw [escape] at ih ⊢
    rw [List.flatMap_cons, List.append_assoc, List.cons_append, ← ih]
    exact strip_escape c _

theorem not_begins_escapes {text : Text} (h : text ≠ []) (rest : Text) :
    ¬ Begins markup colors side ((ofStyles colors markup styles).escape text ++ rest) := by
  obtain ⟨c, text, rfl⟩ := List.exists_cons_of_ne_nil h
  rw [escape, List.flatMap_cons, List.append_assoc]
  exact not_begins_escape c _

/-- What is written for one step does not begin with a mark that closes. -/
theorem not_begins_renderStep {step : Step} (hstep : step.text ≠ []) (rest : Text) :
    ¬ Begins markup colors .closing ((ofStyles colors markup styles).renderStep step ++ rest) := by
  rcases step with ⟨span, text⟩ | ⟨position, c⟩
  · obtain ⟨traits, hrow⟩ := exists_row_ofStyles colors markup styles span.tokenType .opening
    rw [renderStep, wrap, show (tags _ _).opening = _ from hrow, List.append_assoc,
      List.append_assoc]
    intro hcloses
    by_cases hnil : row markup colors .opening traits = []
    · rw [hnil, List.nil_append] at hcloses
      exact not_begins_escapes hstep _ hcloses
    · have hside := ((begins_row hnil).append _).side_eq hcloses
      cases hside
  · exact not_begins_escape c rest

/-- What was written for one step is turned back into its characters. -/
theorem strip_renderStep {step : Step} (hstep : step.text ≠ []) {rest : Text}
    (hrest : ¬ Begins markup colors .closing rest) :
    (ofStyles colors markup styles).strip
        ((ofStyles colors markup styles).renderStep step ++ rest) =
      step.text ++ (ofStyles colors markup styles).strip rest := by
  rcases step with ⟨span, text⟩ | ⟨position, c⟩
  · have hopens : ¬ Begins markup colors .opening ((ofStyles colors markup styles).escape text ++
        (((ofStyles colors markup styles).tags span.tokenType).closing ++ rest)) :=
      not_begins_escapes hstep _
    calc
      _ = (ofStyles colors markup styles).strip
            (((ofStyles colors markup styles).tags span.tokenType).opening ++
              ((ofStyles colors markup styles).escape text ++
                (((ofStyles colors markup styles).tags span.tokenType).closing ++ rest))) := by
        rw [renderStep, wrap, List.append_assoc, List.append_assoc]
      _ = (ofStyles colors markup styles).strip
            ((ofStyles colors markup styles).escape text ++
              (((ofStyles colors markup styles).tags span.tokenType).closing ++ rest)) :=
        strip_part span.tokenType hopens
      _ = text ++ (ofStyles colors markup styles).strip
            (((ofStyles colors markup styles).tags span.tokenType).closing ++ rest) :=
        strip_escapes text _
      _ = text ++ (ofStyles colors markup styles).strip rest :=
        congrArg (text ++ ·) (strip_part span.tokenType hrest)
  · exact strip_escape c rest

theorem strip_flatMap_renderStep {all : List Step} (hall : ∀ step ∈ all, step.text ≠ []) :
    ¬ Begins markup colors .closing (all.flatMap (ofStyles colors markup styles).renderStep) ∧
      (ofStyles colors markup styles).strip
          (all.flatMap (ofStyles colors markup styles).renderStep) =
        all.flatMap Step.text := by
  induction all with
  | nil => exact ⟨not_begins_nil, rfl⟩
  | cons step all ih =>
    have hstep := hall step List.mem_cons_self
    obtain ⟨hbegins, hstrip⟩ := ih fun other hother => hall other (List.mem_cons_of_mem _ hother)
    rw [List.flatMap_cons, List.flatMap_cons]
    exact ⟨not_begins_renderStep hstep _, (strip_renderStep hstep hbegins).trans (by rw [hstrip])⟩

end Theme

/-- **Round trip.** For all styles and rules, stripping gives back the text that was rendered. -/
theorem strip_render (colors : ColorOutput) (markup : Markup) (styles : StyleMap)
    (rules : List Rule) (text : Text) :
    (Theme.ofStyles colors markup styles).strip
        ((Theme.ofStyles colors markup styles).render rules text) = text := by
  have hall : ∀ step ∈ steps rules text, step.text ≠ [] :=
    fun step hstep => (tiles_stepsFrom rules none 0 text).text_ne_nil hstep
  rw [Theme.render, (Theme.strip_flatMap_renderStep hall).2]
  exact flatMap_text_stepsFrom rules none 0 text

end Highlighter
