import Highlighter.Proofs.RoundTrip

/-!
# Stripping as rewriting

Stripping goes over a text once, from left to right. At each place it replaces the longest piece of
markup that stands there, and where none stands it keeps a character.

* `Theme.Writes`, `Theme.IsPiece`: the pieces of markup that a theme writes, with their meanings.
* `Theme.Rewrites`: one pass over a text, told by the pieces alone.
* `Theme.Rewrites.unchanged_or_shorter`: what a pass changes becomes shorter.
* `Theme.Rewrites.eq_stripFrom`, `Theme.rewrites_strip`: stripping is such a pass, the only one.
* `rewrites_iff_eq_strip`: the same for every theme, with what follows for the text.
-/

namespace Highlighter

namespace Theme

variable {theme : Theme} {piece meaning text result : Text}

/-! ## Passes -/

/-- What a theme writes besides the characters of a text, with its meaning: a part of a tag, which
means nothing, or what is written for a character. -/
inductive Writes (theme : Theme) : Text → Text → Prop
  | part {type : TokenType} {side : Side} : type ∈ TokenType.styled →
      (theme.tags type).part side ≠ [] → Writes theme ((theme.tags type).part side) []
  | escape {c : Char} {written : Text} : (c, written) ∈ theme.markup.escapes →
      Writes theme written [c]

/-- Whether a text is a piece of a theme's markup. -/
def IsPiece (theme : Theme) (piece : Text) : Prop := ∃ meaning, theme.Writes piece meaning

/-- One pass over a text from left to right: the longest piece that stands at a place is replaced
by its meaning, and where no piece stands one character is kept. -/
inductive Rewrites (theme : Theme) : Text → Text → Prop
  | done : Rewrites theme [] []
  | piece {piece meaning rest result : Text} : theme.Writes piece meaning →
      (∀ other, theme.IsPiece other → other <+: piece ++ rest → other.length ≤ piece.length) →
      Rewrites theme rest result → Rewrites theme (piece ++ rest) (meaning ++ result)
  | char {c : Char} {rest result : Text} :
      (∀ piece, theme.IsPiece piece → ¬ piece <+: c :: rest) →
      Rewrites theme rest result → Rewrites theme (c :: rest) (c :: result)

/-- A piece is longer than its meaning. -/
theorem Writes.length_lt (h : theme.Writes piece meaning) : meaning.length < piece.length := by
  cases h with
  | part _ hne => exact List.length_pos_iff.mpr hne
  | escape hmem =>
    have hall : ∀ escape ∈ theme.markup.escapes, 1 < escape.2.length := by
      cases theme.markup <;> decide
    exact hall _ hmem

theorem IsPiece.ne_nil (h : theme.IsPiece piece) : piece ≠ [] := by
  obtain ⟨meaning, hwrites⟩ := h
  exact List.ne_nil_of_length_pos (Nat.zero_lt_of_lt hwrites.length_lt)

/-- **A pass keeps a text without pieces, and makes any other shorter.** -/
theorem Rewrites.unchanged_or_shorter (h : theme.Rewrites text result) :
    (result = text ∧ ∀ piece, theme.IsPiece piece → ¬ piece <:+: text) ∨
      (result.length < text.length ∧ ∃ piece, theme.IsPiece piece ∧ piece <:+: text) := by
  induction h with
  | done => exact .inl ⟨rfl, fun piece hpiece hinfix => hpiece.ne_nil (List.infix_nil.mp hinfix)⟩
  | @piece piece meaning rest result hwrites _ _ ih =>
    have hshort := hwrites.length_lt
    have hrest : result.length ≤ rest.length := by
      rcases ih with ⟨rfl, -⟩ | ⟨hlt, -⟩
      · exact Nat.le_refl _
      · exact Nat.le_of_lt hlt
    refine .inr ⟨?_, piece, ⟨meaning, hwrites⟩, (List.prefix_append piece rest).isInfix⟩
    rw [List.length_append, List.length_append]
    exact Nat.add_lt_add_of_lt_of_le hshort hrest
  | @char c rest result hnone _ ih =>
    rcases ih with ⟨rfl, hkept⟩ | ⟨hlt, piece, hpiece, hinfix⟩
    · refine .inl ⟨rfl, fun piece hpiece hinfix => ?_⟩
      rcases List.infix_cons_iff.mp hinfix with hpre | hrest
      · exact hnone piece hpiece hpre
      · exact hkept piece hpiece hrest
    · exact .inr ⟨Nat.succ_lt_succ hlt, piece, hpiece, List.infix_cons hinfix⟩

/-! ## The pass of a theme -/

theorem isPiece_iff : theme.IsPiece piece ↔ piece ∈ theme.pieces := by
  rw [mem_pieces]
  constructor
  · rintro ⟨meaning, hwrites⟩
    refine ⟨IsPiece.ne_nil ⟨meaning, hwrites⟩, ?_⟩
    cases hwrites with
    | @part type side htype hne =>
      refine .inl ⟨type, htype, ?_⟩
      cases side
      · exact .inl rfl
      · exact .inr rfl
    | escape hmem => exact .inr (List.mem_map_of_mem hmem)
  · rintro ⟨hne, ⟨type, htype, rfl | rfl⟩ | hescape⟩
    · exact ⟨[], @Writes.part theme type .opening htype hne⟩
    · exact ⟨[], @Writes.part theme type .closing htype hne⟩
    · obtain ⟨⟨c, written⟩, hmem, rfl⟩ := List.mem_map.mp hescape
      exact ⟨[c], .escape hmem⟩

variable {colors : ColorOutput} {markup : Markup} {styles : StyleMap}

/-- No part of a tag is written for a character, so each piece has one meaning. -/
theorem Writes.unescape (h : (ofStyles colors markup styles).Writes piece meaning) :
    markup.unescape piece = meaning := by
  cases h with
  | @part type side _ hne =>
    obtain ⟨traits, hrow⟩ := exists_row_ofStyles colors markup styles type side
    rw [hrow] at hne ⊢
    exact unescape_of_begins (begins_row hne)
  | escape hmem =>
    have hall : ∀ escape ∈ markup.escapes, markup.unescape escape.2 = [escape.1] := by
      cases markup <;> decide
    exact hall _ hmem

/-- **There is one pass at most**, and stripping by the pieces in any order that looks for longer
ones first follows it. -/
theorem Rewrites.eq_stripFrom {order : List Text}
    (horder : ∀ piece, piece ∈ order ↔ (ofStyles colors markup styles).IsPiece piece)
    (hlongest : LongestFirst order) (h : (ofStyles colors markup styles).Rewrites text result) :
    stripFrom order markup.unescape 0 text = result := by
  induction h with
  | done => rfl
  | @piece piece meaning rest result hwrites hmax _ ih =>
    have hpiece : (ofStyles colors markup styles).IsPiece piece := ⟨meaning, hwrites⟩
    have hfind : order.find? (·.isPrefixOf (piece ++ rest)) = some piece :=
      hlongest.find?_eq_some_iff.mpr ⟨(horder piece).mpr hpiece, List.prefix_append piece rest,
        fun other hother => hmax other ((horder other).mp hother)⟩
    rw [stripFrom_piece hpiece.ne_nil hfind, hwrites.unescape, ih]
  | char hnone _ ih =>
    rw [stripFrom_char fun piece hpiece => hnone piece ((horder piece).mp hpiece), ih]

/-- **Stripping is a pass.** -/
theorem rewrites_strip (colors : ColorOutput) (markup : Markup) (styles : StyleMap) (text : Text) :
    (ofStyles colors markup styles).Rewrites text ((ofStyles colors markup styles).strip text) := by
  induction hn : text.length using Nat.strongRecOn generalizing text with
  | ind n ih =>
    subst hn
    cases hfind : (ofStyles colors markup styles).pieces.find? (·.isPrefixOf text) with
    | some piece =>
      obtain ⟨hmem, ⟨rest, rfl⟩, hmax⟩ :=
        (longestFirst_pieces _).find?_eq_some_iff.mp hfind
      obtain ⟨meaning, hwrites⟩ := isPiece_iff.mpr hmem
      have hshorter : rest.length < (piece ++ rest).length := by
        have := hwrites.length_lt
        rw [List.length_append]
        omega
      rw [strip_piece hmem hmax, show (ofStyles colors markup styles).markup.unescape piece = _ from
        hwrites.unescape]
      exact .piece hwrites (fun other hother => hmax other (isPiece_iff.mp hother))
        (ih _ hshorter rest rfl)
    | none =>
      rcases text with _ | ⟨c, rest⟩
      · exact .done
      · have hnone : ∀ piece ∈ (ofStyles colors markup styles).pieces, ¬ piece <+: c :: rest := by
          intro piece hmem hpre
          exact List.find?_eq_none.mp hfind piece hmem (List.isPrefixOf_iff_prefix.mpr hpre)
        rw [strip_char hnone]
        exact .char (fun piece hpiece => hnone piece (isPiece_iff.mp hpiece))
          (ih _ (Nat.lt_succ_self _) rest rfl)

end Theme

/-- **Stripping is leftmost-longest rewriting.** For all styles, what is left of a text is what one
pass over it leaves, in whatever order the pieces are held if longer ones are looked for first. A
text is left as it is exactly if no piece of markup occurs in it, and any other becomes shorter. -/
theorem rewrites_iff_eq_strip (colors : ColorOutput) (markup : Markup) (styles : StyleMap)
    (text : Text) :
    (∀ result, (Theme.ofStyles colors markup styles).Rewrites text result ↔
        result = (Theme.ofStyles colors markup styles).strip text) ∧
      (∀ order, (∀ piece, piece ∈ order ↔ (Theme.ofStyles colors markup styles).IsPiece piece) →
        LongestFirst order →
          stripFrom order markup.unescape 0 text =
            (Theme.ofStyles colors markup styles).strip text) ∧
      ((Theme.ofStyles colors markup styles).strip text = text ↔
        ∀ piece, (Theme.ofStyles colors markup styles).IsPiece piece → ¬ piece <:+: text) ∧
      ∀ piece, (Theme.ofStyles colors markup styles).IsPiece piece → piece <:+: text →
        ((Theme.ofStyles colors markup styles).strip text).length < text.length := by
  have hstrip := Theme.rewrites_strip colors markup styles text
  refine ⟨fun result => ⟨fun h => ?_, ?_⟩, fun order horder hlongest => ?_, ?_⟩
  · exact (h.eq_stripFrom (fun _ => Theme.isPiece_iff.symm) (Theme.longestFirst_pieces _)).symm
  · rintro rfl
    exact hstrip
  · exact hstrip.eq_stripFrom horder hlongest
  · rcases hstrip.unchanged_or_shorter with ⟨hsame, hnone⟩ | ⟨hlt, piece, hpiece, hinfix⟩
    · exact ⟨iff_of_true hsame hnone,
        fun piece hpiece hinfix => absurd hinfix (hnone piece hpiece)⟩
    · refine ⟨iff_of_false (fun hsame => ?_) fun hnone => hnone piece hpiece hinfix,
        fun _ _ _ => hlt⟩
      rw [hsame] at hlt
      exact Nat.lt_irrefl _ hlt

/-- Without colors, one terminal sequence begins with another one. The longer one is looked for
first, also where the pieces of equal length are held in another order, or one of them twice. -/
theorem rewrites_iff_eq_strip_ansi :
    (Theme.ofStyles .suppressed .ansi .empty).pieces =
        ["\x1b[m\x1b[1m".toList, "\x1b[m\x1b[3m".toList, "\u241b\u241b".toList,
          "\x1b[0m".toList, "\u241b[".toList, "\x1b[m".toList] ∧
      stripFrom ["\x1b[m\x1b[3m".toList, "\x1b[m\x1b[1m".toList, "\x1b[m\x1b[1m".toList,
          "\u241b\u241b".toList, "\u241b[".toList, "\x1b[0m".toList, "\x1b[m".toList]
          Markup.ansi.unescape 0 "\x1b[m\x1b[1mif\x1b[0m".toList =
        (Theme.ofStyles .suppressed .ansi .empty).strip "\x1b[m\x1b[1mif\x1b[0m".toList ∧
      ((Theme.ofStyles .suppressed .ansi .empty).strip "\x1b[m\x1b[1mif\x1b[0m".toList).length <
        "\x1b[m\x1b[1mif\x1b[0m".toList.length ∧
      (Theme.ofStyles .suppressed .ansi .empty).strip "\x1b[1mif".toList =
        "\x1b[1mif".toList := by
  have hpieces : (Theme.ofStyles .suppressed .ansi .empty).pieces =
      ["\x1b[m\x1b[1m".toList, "\x1b[m\x1b[3m".toList, "\u241b\u241b".toList,
        "\x1b[0m".toList, "\u241b[".toList, "\x1b[m".toList] := by
    decide
  have hsame : (∀ piece ∈ (Theme.ofStyles .suppressed .ansi .empty).pieces,
        piece ∈ ["\x1b[m\x1b[3m".toList, "\x1b[m\x1b[1m".toList, "\x1b[m\x1b[1m".toList,
          "\u241b\u241b".toList, "\u241b[".toList, "\x1b[0m".toList, "\x1b[m".toList]) ∧
      ∀ piece ∈ ["\x1b[m\x1b[3m".toList, "\x1b[m\x1b[1m".toList, "\x1b[m\x1b[1m".toList,
          "\u241b\u241b".toList, "\u241b[".toList, "\x1b[0m".toList, "\x1b[m".toList],
        piece ∈ (Theme.ofStyles .suppressed .ansi .empty).pieces := by
    decide
  have hnone : ∀ piece ∈ (Theme.ofStyles .suppressed .ansi .empty).pieces,
      ¬ piece <:+: "\x1b[1mif".toList := by
    decide
  obtain ⟨-, horder, -, hshorter⟩ := rewrites_iff_eq_strip .suppressed .ansi .empty
    "\x1b[m\x1b[1mif\x1b[0m".toList
  obtain ⟨-, -, hkept, -⟩ := rewrites_iff_eq_strip .suppressed .ansi .empty "\x1b[1mif".toList
  refine ⟨hpieces, horder _ (fun piece => ?_) (by unfold LongestFirst; decide),
    hshorter "\x1b[m".toList (Theme.isPiece_iff.mpr (by decide)) (by decide),
    hkept.mpr fun piece hpiece => hnone piece (Theme.isPiece_iff.mp hpiece)⟩
  rw [Theme.isPiece_iff]
  exact ⟨hsame.2 piece, hsame.1 piece⟩

end Highlighter
