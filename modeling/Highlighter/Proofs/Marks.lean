import Mathlib.Data.List.Infix
import Highlighter.Markup
import Highlighter.Proofs.Color

/-!
# Marks

A tag is made of marks, one for each trait of a style.

* `Style.traits`: what a style sets, from the outside in.
* `Trait.mark`: how a markup opens and closes an trait.
* `Tag.opening_ofStyle`, `Tag.closing_richText`, `Tag.closing_ansi`: tags are rows of marks.
* `terminated_mark`: a mark ends at the first terminator of its markup, so no mark begins with
  another one.
* `mark_not_prefix_escape`: what is written for a character does not begin with a mark.
-/

namespace Highlighter

/-! ## Traits -/

/-- One of the things that a style sets. -/
inductive Trait where
  | color (mix : Rgb)
  | bold
  | italic
deriving DecidableEq, Repr

/-- The traits that a style sets, in the order in which they are opened. -/
def Style.traits (style : Style) : List Trait :=
  (style.foreground.rgb.map Trait.color).toList ++ (if style.bold then [.bold] else []) ++
    if style.italic then [.italic] else []

/-- Only the style of plain text sets nothing. -/
theorem Style.traits_eq_nil_iff {style : Style} : style.traits = [] ↔ style = .plain := by
  obtain ⟨foreground, bold, italic⟩ := style
  rw [Style.traits, plain, Style.mk.injEq, ← Color.rgb_eq_none_iff]
  cases foreground.rgb <;> cases bold <;> cases italic <;> simp

theorem Style.isPlain_iff {style : Style} : style.isPlain ↔ style = .plain := decide_eq_true_iff

/-! ## Marks -/

/-- The two parts of a tag. -/
inductive Side where
  | opening
  | closing
deriving DecidableEq, Repr

/-- What a markup writes to open or to close an trait. On a terminal, all traits are closed
by the same sequence. -/
def Trait.mark (markup : Markup) (colors : ColorOutput) (side : Side) (trait : Trait) :
    Text :=
  match markup, side, trait with
  | .richText, .opening, color mix => "<color=#".toList ++ mix.hex ++ ['>']
  | .richText, .opening, bold => "<b>".toList
  | .richText, .opening, italic => "<i>".toList
  | .richText, .closing, color _ => "</color>".toList
  | .richText, .closing, bold => "</b>".toList
  | .richText, .closing, italic => "</i>".toList
  | .ansi, .opening, color mix => Tag.escapeSequence (Tag.colorParameters colors mix)
  | .ansi, .opening, bold => Tag.escapeSequence ['1']
  | .ansi, .opening, italic => Tag.escapeSequence ['3']
  | .ansi, .closing, _ => Tag.escapeSequence ['0']

theorem Trait.mark_color_richText (mix : Rgb) (colors : ColorOutput) :
    (color mix).mark .richText colors .opening = "<color=#".toList ++ mix.hex ++ ['>'] := rfl

theorem Trait.mark_color_ansi (mix : Rgb) (colors : ColorOutput) :
    (color mix).mark .ansi colors .opening =
      Tag.escapeSequence (Tag.colorParameters colors mix) := rfl

namespace Tag

variable {markup : Markup} {colors : ColorOutput} {style : Style}

theorem ofStyle_of_plain (h : style = .plain) : ofStyle markup colors style = empty := by
  rw [ofStyle.eq_def, if_pos (Style.isPlain_iff.mpr h)]

theorem ofStyle_richText (h : style ≠ .plain) :
    ofStyle .richText colors style = richText style := by
  rw [ofStyle.eq_def, if_neg (mt Style.isPlain_iff.mp h)]

theorem ofStyle_ansi (h : style ≠ .plain) : ofStyle .ansi colors style = ansi colors style := by
  rw [ofStyle.eq_def, if_neg (mt Style.isPlain_iff.mp h)]

theorem opening_richColor (color : Color) :
    (richColor color).opening =
      (color.rgb.map Trait.color).toList.flatMap (Trait.mark .richText colors .opening) := by
  rw [richColor, Color.hex?]
  cases color.rgb with
  | none => rfl
  | some mix =>
    rw [Option.map_some, Option.map_some, Option.toList_some, List.flatMap_singleton,
      Trait.mark_color_richText]
    rfl

/-- **The first part of a tag** opens the traits of the style one after the other. -/
theorem opening_ofStyle :
    (ofStyle markup colors style).opening =
      style.traits.flatMap (Trait.mark markup colors .opening) := by
  by_cases hplain : style = .plain
  · rw [ofStyle_of_plain hplain, Style.traits_eq_nil_iff.mpr hplain]
    rfl
  rw [Style.traits, List.flatMap_append, List.flatMap_append]
  cases markup with
  | richText =>
    rw [ofStyle_richText hplain, List.append_assoc]
    refine congrArg₂ _ (opening_richColor _) (congrArg₂ _ ?_ ?_)
    · cases style.bold <;> rfl
    · cases style.italic <;> rfl
  | ansi =>
    rw [ofStyle_ansi hplain]
    refine congrArg₂ _ (congrArg₂ _ ?_ ?_) ?_
    · cases style.foreground.rgb with
      | none => rfl
      | some mix =>
        rw [Option.map_some, Option.toList_some, List.flatMap_singleton, Trait.mark_color_ansi]
    · cases style.bold <;> rfl
    · cases style.italic <;> rfl

/-- The second part of a rich-text tag closes the traits in the opposite order. -/
theorem closing_richText :
    (ofStyle .richText colors style).closing =
      style.traits.reverse.flatMap (Trait.mark .richText colors .closing) := by
  by_cases hplain : style = .plain
  · rw [ofStyle_of_plain hplain, Style.traits_eq_nil_iff.mpr hplain]
    rfl
  rw [ofStyle_richText hplain, Style.traits, List.reverse_append, List.reverse_append,
    List.flatMap_append, List.flatMap_append, ← List.append_assoc]
  refine congrArg₂ _ (congrArg₂ _ ?_ ?_) ?_
  · cases style.italic <;> rfl
  · cases style.bold <;> rfl
  · rw [richColor, Color.hex?]
    cases style.foreground.rgb <;> rfl

/-- The second part of a terminal tag resets all traits at once. -/
theorem closing_ansi :
    (ofStyle .ansi colors style).closing =
      if style.traits = [] then [] else escapeSequence ['0'] := by
  by_cases hplain : style = .plain
  · rw [ofStyle_of_plain hplain, if_pos (Style.traits_eq_nil_iff.mpr hplain)]
    rfl
  · rw [ofStyle_ansi hplain, if_neg (mt Style.traits_eq_nil_iff.mp hplain)]
    rfl

end Tag

/-! ## Telling marks apart -/

/-- Whether a text ends with the first occurrence of a character in it. -/
def Terminated (last : Char) (text : Text) : Prop := ∃ body, text = body ++ [last] ∧ last ∉ body

/-- Two terminated texts at one place are the same. -/
theorem Terminated.unique {last : Char} {a b text : Text} (ha : Terminated last a)
    (hb : Terminated last b) (hpre : a <+: text) (hpre' : b <+: text) : a = b := by
  have hle : ∀ {a b : Text}, Terminated last a → Terminated last b → a <+: b → a = b := by
    rintro a b ⟨x, rfl, -⟩ ⟨y, rfl, hy⟩ h
    rcases List.prefix_concat_iff.mp h with heq | hshort
    · exact heq
    · exact absurd (hshort.subset (by simp)) hy
  rcases List.prefix_or_prefix_of_prefix hpre hpre' with h | h
  · exact hle ha hb h
  · exact (hle hb ha h).symm

/-- The character that ends a mark. -/
def Markup.terminator : Markup → Char
  | .richText => '>'
  | .ansi => 'm'

theorem not_mem_hex (mix : Rgb) : '>' ∉ mix.hex := by
  intro hmem
  obtain ⟨n, hn, heq⟩ := mem_hex hmem
  revert n
  decide

theorem not_mem_decimal {c : Char} (hc : c.isDigit = false) (n : Nat) : c ∉ Text.decimal n := by
  intro hmem
  rw [Nat.isDigit_of_mem_toDigits (by decide) (by decide) hmem] at hc
  cases hc

theorem Tag.colorParameters_full (mix : Rgb) :
    colorParameters .full mix =
      "38;2;".toList ++ Text.decimal mix.red.toNat ++ [';'] ++ Text.decimal mix.green.toNat ++
        [';'] ++ Text.decimal mix.blue.toNat := rfl

theorem not_mem_colorParameters (colors : ColorOutput) (mix : Rgb) :
    'm' ∉ Tag.colorParameters colors mix := by
  have hdecimal : ∀ n, 'm' ∉ Text.decimal n := not_mem_decimal (by decide)
  cases colors with
  | full =>
    rw [Tag.colorParameters_full]
    simp only [List.mem_append, not_or]
    exact ⟨⟨⟨⟨⟨by decide, hdecimal mix.red.toNat⟩, by decide⟩, hdecimal mix.green.toNat⟩,
      by decide⟩, hdecimal mix.blue.toNat⟩
  | suppressed => exact List.not_mem_nil

theorem terminated_escapeSequence {parameters : Text} (h : 'm' ∉ parameters) :
    Terminated 'm' (Tag.escapeSequence parameters) := by
  refine ⟨'\x1b' :: '[' :: parameters, rfl, ?_⟩
  simp only [List.mem_cons, not_or]
  exact ⟨by decide, by decide, h⟩

variable {markup : Markup} {colors : ColorOutput} {side : Side}

/-- A mark ends with the first terminator in it. -/
theorem terminated_mark (markup : Markup) (colors : ColorOutput) (side : Side) (trait : Trait) :
    Terminated markup.terminator (trait.mark markup colors side) := by
  cases markup with
  | richText =>
    cases side with
    | opening =>
      cases trait with
      | color mix =>
        refine ⟨"<color=#".toList ++ mix.hex, rfl, ?_⟩
        rw [List.mem_append, not_or]
        exact ⟨by decide, not_mem_hex mix⟩
      | bold => exact ⟨"<b".toList, rfl, by decide⟩
      | italic => exact ⟨"<i".toList, rfl, by decide⟩
    | closing =>
      cases trait with
      | color mix => exact ⟨"</color".toList, rfl, by decide⟩
      | bold => exact ⟨"</b".toList, rfl, by decide⟩
      | italic => exact ⟨"</i".toList, rfl, by decide⟩
  | ansi =>
    cases side with
    | opening =>
      cases trait with
      | color mix => exact terminated_escapeSequence (not_mem_colorParameters colors mix)
      | bold => exact terminated_escapeSequence (by decide)
      | italic => exact terminated_escapeSequence (by decide)
    | closing => exact terminated_escapeSequence (by decide)

theorem mark_ne_nil (trait : Trait) : trait.mark markup colors side ≠ [] := by
  obtain ⟨body, heq, -⟩ := terminated_mark markup colors side trait
  rw [heq]
  exact List.append_ne_nil_of_right_ne_nil body (List.cons_ne_nil _ _)

/-- A rich-text mark closes if there is a slash behind the bracket. -/
theorem mark_richText (colors : ColorOutput) (side : Side) (trait : Trait) :
    ∃ c rest, trait.mark .richText colors side = '<' :: c :: rest ∧
      (c = '/' ↔ side = .closing) ∧ c ≠ 'n' := by
  cases side with
  | opening =>
    cases trait with
    | color mix => exact ⟨'c', _, rfl, by decide⟩
    | bold => exact ⟨'b', _, rfl, by decide⟩
    | italic => exact ⟨'i', _, rfl, by decide⟩
  | closing => cases trait <;> exact ⟨'/', _, rfl, by decide⟩

/-- A terminal mark closes if its parameters begin with a zero. -/
theorem mark_ansi (colors : ColorOutput) (side : Side) (trait : Trait) :
    ∃ c rest, trait.mark .ansi colors side = '\x1b' :: '[' :: c :: rest ∧
      (c = '0' ↔ side = .closing) := by
  cases side with
  | opening =>
    cases trait with
    | color mix =>
      cases colors with
      | full => exact ⟨'3', _, rfl, by decide⟩
      | suppressed => exact ⟨'m', _, rfl, by decide⟩
    | bold => exact ⟨'1', _, rfl, by decide⟩
    | italic => exact ⟨'3', _, rfl, by decide⟩
  | closing => exact ⟨'0', _, rfl, by decide⟩

/-- No mark both opens and closes. -/
theorem mark_opening_ne_closing (a b : Trait) :
    a.mark markup colors .opening ≠ b.mark markup colors .closing := by
  intro h
  cases markup with
  | richText =>
    obtain ⟨c, rest, ha, hc, -⟩ := mark_richText colors .opening a
    obtain ⟨d, more, hb, hd, -⟩ := mark_richText colors .closing b
    rw [ha, hb, List.cons.injEq, List.cons.injEq] at h
    have hopens := hc.mp (h.2.1.trans (hd.mpr rfl))
    cases hopens
  | ansi =>
    obtain ⟨c, rest, ha, hc⟩ := mark_ansi colors .opening a
    obtain ⟨d, more, hb, hd⟩ := mark_ansi colors .closing b
    rw [ha, hb, List.cons.injEq, List.cons.injEq, List.cons.injEq] at h
    have hopens := hc.mp (h.2.2.1.trans (hd.mpr rfl))
    cases hopens

/-! ## Characters -/

theorem escape_richText (c : Char) :
    Markup.richText.escape c = if c = '<' then "<noparse><</noparse>".toList else [c] := by
  by_cases hc : c = '<'
  · subst hc
    rfl
  · rw [if_neg hc, Markup.escape, Markup.escapes,
      List.find?_cons_of_neg (by simpa using Ne.symm hc)]
    rfl

theorem escape_ansi (c : Char) :
    Markup.ansi.escape c =
      if c = '\x1b' then ['\u241b', '[']
      else if c = '\u241b' then ['\u241b', '\u241b'] else [c] := by
  by_cases hesc : c = '\x1b'
  · subst hesc
    rfl
  by_cases hsymbol : c = '\u241b'
  · subst hsymbol
    rfl
  · rw [if_neg hesc, if_neg hsymbol, Markup.escape, Markup.escapes,
      List.find?_cons_of_neg (by simpa using Ne.symm hesc),
      List.find?_cons_of_neg (by simpa using Ne.symm hsymbol)]
    rfl

/-- **What is written for a character is no mark**, whatever comes after it. -/
theorem mark_not_prefix_escape (trait : Trait) (c : Char) (rest : Text) :
    ¬ trait.mark markup colors side <+: markup.escape c ++ rest := by
  intro h
  cases markup with
  | richText =>
    obtain ⟨d, more, hmark, -, hd⟩ := mark_richText colors side trait
    rw [hmark, escape_richText] at h
    by_cases hc : c = '<'
    · rw [if_pos hc] at h
      exact hd (List.cons_prefix_cons.mp (List.cons_prefix_cons.mp h).2).1
    · rw [if_neg hc] at h
      exact hc (List.cons_prefix_cons.mp h).1.symm
  | ansi =>
    obtain ⟨d, more, hmark, -⟩ := mark_ansi colors side trait
    rw [hmark, escape_ansi] at h
    by_cases hesc : c = '\x1b'
    · rw [if_pos hesc] at h
      exact absurd (List.cons_prefix_cons.mp h).1 (by decide)
    · rw [if_neg hesc] at h
      by_cases hsymbol : c = '\u241b'
      · rw [if_pos hsymbol] at h
        exact absurd (List.cons_prefix_cons.mp h).1 (by decide)
      · rw [if_neg hsymbol] at h
        exact hesc (List.cons_prefix_cons.mp h).1.symm

namespace Markup

theorem nil_not_mem_escapes (markup : Markup) : [] ∉ markup.escapes.map (·.2) := by
  cases markup <;> decide

/-- What is written for a character that is not written as it is. -/
theorem exists_of_mem_escapes {piece : Text} (h : piece ∈ markup.escapes.map (·.2)) :
    ∃ c, piece = markup.escape c := by
  cases markup with
  | richText => exact ⟨'<', List.mem_singleton.mp h⟩
  | ansi =>
    rcases List.mem_cons.mp h with heq | h
    · exact ⟨'\x1b', heq⟩
    · exact ⟨'\u241b', List.mem_singleton.mp h⟩

/-- A character is written as it is, or what is written for it stands for it. -/
theorem escape_cases (markup : Markup) (c : Char) :
    (markup.escape c = [c] ∧ [c] ∉ markup.escapes.map (·.2)) ∨
      (markup.escape c ∈ markup.escapes.map (·.2) ∧ markup.unescape (markup.escape c) = [c]) := by
  cases markup with
  | richText =>
    by_cases hc : c = '<'
    · subst hc
      exact .inr ⟨by decide, by decide⟩
    · exact .inl ⟨by rw [escape_richText, if_neg hc], by simp [escapes]⟩
  | ansi =>
    by_cases hesc : c = '\x1b'
    · subst hesc
      exact .inr ⟨by decide, by decide⟩
    by_cases hsymbol : c = '\u241b'
    · subst hsymbol
      exact .inr ⟨by decide, by decide⟩
    · exact .inl ⟨by rw [escape_ansi, if_neg hesc, if_neg hsymbol], by simp [escapes]⟩

/-- What is written for a character stands for no other character, whatever comes after it. -/
theorem eq_escape_of_prefix {piece rest : Text} {c : Char}
    (hpiece : piece ∈ markup.escapes.map (·.2)) (h : piece <+: markup.escape c ++ rest) :
    piece = markup.escape c := by
  cases markup with
  | richText =>
    obtain rfl := List.mem_singleton.mp hpiece
    rw [escape_richText] at h ⊢
    by_cases hc : c = '<'
    · rw [if_pos hc]
    · rw [if_neg hc] at h
      exact absurd (List.cons_prefix_cons.mp h).1.symm hc
  | ansi =>
    rw [escape_ansi] at h ⊢
    by_cases hesc : c = '\x1b'
    · rw [if_pos hesc] at h ⊢
      rcases List.mem_cons.mp hpiece with rfl | hpiece
      · rfl
      · obtain rfl := List.mem_singleton.mp hpiece
        exact absurd (List.cons_prefix_cons.mp (List.cons_prefix_cons.mp h).2).1 (by decide)
    · rw [if_neg hesc] at h ⊢
      by_cases hsymbol : c = '\u241b'
      · rw [if_pos hsymbol] at h ⊢
        rcases List.mem_cons.mp hpiece with rfl | hpiece
        · exact absurd (List.cons_prefix_cons.mp (List.cons_prefix_cons.mp h).2).1 (by decide)
        · exact List.mem_singleton.mp hpiece
      · rw [if_neg hsymbol] at h
        rcases List.mem_cons.mp hpiece with rfl | hpiece
        · exact absurd (List.cons_prefix_cons.mp h).1.symm hsymbol
        · obtain rfl := List.mem_singleton.mp hpiece
          exact absurd (List.cons_prefix_cons.mp h).1.symm hsymbol

end Markup

end Highlighter
