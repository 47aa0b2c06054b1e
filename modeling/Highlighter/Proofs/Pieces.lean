import Mathlib.Data.List.Infix
import Highlighter.Theme

/-!
# The order of pieces

A theme looks for the pieces of markup in a fixed order, so that a piece is never taken for a
shorter one that it begins with.

* `LongestFirst`, `longestFirst_pieces`: longer pieces are looked for first.
* `LongestFirst.find?_eq_some_iff`: the piece found at a place is the longest that stands there.
* `strip_piece`, `strip_char`: what stripping does at a piece and between pieces.
-/

namespace Highlighter

/-! ## Bytes -/

namespace Text

theorem byteCount_append (a b : Text) : byteCount (a ++ b) = a.byteCount + b.byteCount := by
  induction a with
  | nil => exact (Nat.zero_add _).symm
  | cons c a ih => rw [List.cons_append, byteCount, byteCount, ih, Nat.add_assoc]

theorem byteCount_pos {text : Text} (h : text ≠ []) : 0 < text.byteCount := by
  rcases text with _ | ⟨c, rest⟩
  · exact absurd rfl h
  · rw [byteCount]
    have := c.utf8Size_pos
    omega

/-- A text has fewer bytes than a longer one that begins with it. -/
theorem byteCount_lt_of_prefix {a b : Text} (h : a <+: b) (hne : a ≠ b) :
    a.byteCount < b.byteCount := by
  obtain ⟨more, rfl⟩ := h
  have hmore : more ≠ [] := by
    rintro rfl
    exact hne (List.append_nil a).symm
  have := byteCount_pos hmore
  rw [byteCount_append]
  omega

end Text

/-! ## Putting pieces in order -/

/-- Whether pieces with more bytes come before those with fewer. -/
def LongestFirst (pieces : List Text) : Prop :=
  pieces.Pairwise fun a b => b.byteCount ≤ a.byteCount

/-- **The longest piece that stands at a place is found there.** -/
theorem LongestFirst.find?_eq_some_iff {pieces : List Text} (h : LongestFirst pieces)
    {piece text : Text} :
    pieces.find? (·.isPrefixOf text) = some piece ↔
      piece ∈ pieces ∧ piece <+: text ∧
        ∀ other ∈ pieces, other <+: text → other.length ≤ piece.length := by
  have hlongest : ∀ {found}, pieces.find? (·.isPrefixOf text) = some found → found ∈ pieces ∧
      found <+: text ∧ ∀ other ∈ pieces, other <+: text → other.length ≤ found.length := by
    intro found hfind
    obtain ⟨hfound, before, after, rfl, hbefore⟩ := List.find?_eq_some_iff_append.mp hfind
    rw [List.isPrefixOf_iff_prefix] at hfound
    refine ⟨List.mem_of_find?_eq_some hfind, hfound, fun other hother hpre => ?_⟩
    rw [LongestFirst, List.pairwise_append, List.pairwise_cons] at h
    rw [List.mem_append, List.mem_cons] at hother
    rcases hother with hother | rfl | hother
    · have := hbefore other hother
      rw [List.isPrefixOf_iff_prefix.mpr hpre] at this
      cases this
    · exact Nat.le_refl _
    · -- A longer one would begin with the one found, so it would come before that.
      by_contra hlong
      have hshort : found <+: other :=
        List.prefix_of_prefix_length_le hfound hpre (by omega)
      have hlt := Text.byteCount_lt_of_prefix hshort (by rintro rfl; exact hlong (Nat.le_refl _))
      have hle := h.2.1.1 other hother
      omega
  refine ⟨hlongest, fun ⟨hmem, hpre, hmax⟩ => ?_⟩
  cases hfind : pieces.find? (·.isPrefixOf text) with
  | none =>
    have := List.find?_eq_none.mp hfind piece hmem
    rw [List.isPrefixOf_iff_prefix] at this
    exact absurd hpre this
  | some found =>
    obtain ⟨hfound, hpre', hmax'⟩ := hlongest hfind
    have hle := hmax found hfound hpre'
    have heq := (List.prefix_of_prefix_length_le hpre' hpre hle).eq_of_length
      (Nat.le_antisymm hle (hmax' piece hmem hpre))
    rw [heq]

theorem mem_insertPiece {piece other : Text} {all : List Text} :
    other ∈ insertPiece piece all ↔ other = piece ∨ other ∈ all := by
  induction all with
  | nil => rw [insertPiece, List.mem_singleton, List.mem_nil_iff, or_false]
  | cons first rest ih =>
    rw [insertPiece]
    split
    · rename_i heq
      rw [heq, List.mem_cons]
      tauto
    · split
      · rw [List.mem_cons]
      · rw [List.mem_cons, ih, List.mem_cons]
        tauto

/-- Inserting a piece keeps longer pieces in front. -/
theorem longestFirst_insertPiece {all : List Text} (piece : Text) (h : LongestFirst all) :
    LongestFirst (insertPiece piece all) := by
  induction all with
  | nil => exact List.pairwise_singleton _ _
  | cons first rest ih =>
    obtain ⟨hfirst, hrest⟩ := List.pairwise_cons.mp h
    rw [insertPiece]
    split
    · exact h
    · split
      · rename_i hlooks
        have hle : first.byteCount ≤ piece.byteCount := by
          simp only [looksFirst, Bool.or_eq_true, Bool.and_eq_true, decide_eq_true_eq] at hlooks
          omega
        refine List.pairwise_cons.mpr ⟨fun other hother => ?_, h⟩
        rcases List.mem_cons.mp hother with rfl | hmem
        · exact hle
        · exact Nat.le_trans (hfirst other hmem) hle
      · rename_i hlooks
        have hle : piece.byteCount ≤ first.byteCount := by
          simp only [looksFirst, Bool.or_eq_true, Bool.and_eq_true, decide_eq_true_eq] at hlooks
          omega
        refine List.pairwise_cons.mpr ⟨fun other hother => ?_, ih hrest⟩
        rcases mem_insertPiece.mp hother with rfl | hmem
        · exact hle
        · exact hfirst other hmem

theorem mem_foldr_insertPiece {piece : Text} {all : List Text} :
    piece ∈ all.foldr insertPiece [] ↔ piece ∈ all := by
  induction all with
  | nil => rfl
  | cons first rest ih => rw [List.foldr_cons, mem_insertPiece, ih, List.mem_cons]

theorem longestFirst_foldr_insertPiece (all : List Text) :
    LongestFirst (all.foldr insertPiece []) := by
  induction all with
  | nil => exact .nil
  | cons first rest ih => exact longestFirst_insertPiece first ih

namespace Theme

variable {theme : Theme}

theorem mem_pieces {piece : Text} :
    piece ∈ theme.pieces ↔
      piece ≠ [] ∧
        ((∃ type ∈ TokenType.styled,
            piece = (theme.tags type).opening ∨ piece = (theme.tags type).closing) ∨
          piece ∈ theme.markup.escapes.map (·.2)) := by
  rw [pieces, mem_foldr_insertPiece, List.mem_filter, List.mem_append, List.mem_flatMap, and_comm]
  simp only [List.mem_cons, List.not_mem_nil, or_false, Bool.not_eq_true',
    List.isEmpty_eq_false_iff]

theorem longestFirst_pieces (theme : Theme) : LongestFirst theme.pieces :=
  longestFirst_foldr_insertPiece _

end Theme

/-! ## Stripping -/

theorem stripFrom_skip (pieces : List Text) (meaning : Text → Text) (skip : Nat) (text : Text) :
    stripFrom pieces meaning skip text = stripFrom pieces meaning 0 (text.drop skip) := by
  induction skip generalizing text with
  | zero => rw [List.drop_zero]
  | succ skip ih =>
    rcases text with _ | ⟨c, rest⟩
    · rfl
    · rw [stripFrom, ih, List.drop_succ_cons]

section

variable {pieces : List Text} {meaning : Text → Text} {rest : Text}

/-- At a piece that is found there, stripping puts its meaning and goes on behind it. -/
theorem stripFrom_piece {piece : Text} (hne : piece ≠ [])
    (hfind : pieces.find? (·.isPrefixOf (piece ++ rest)) = some piece) :
    stripFrom pieces meaning 0 (piece ++ rest) =
      meaning piece ++ stripFrom pieces meaning 0 rest := by
  obtain ⟨c, piece, rfl⟩ := List.exists_cons_of_ne_nil hne
  rw [List.cons_append] at hfind ⊢
  rw [stripFrom]
  simp only [hfind]
  rw [stripFrom_skip, List.length_cons, Nat.add_sub_cancel, List.drop_left]

/-- Where no piece stands, stripping keeps a character. -/
theorem stripFrom_char {c : Char} (h : ∀ piece ∈ pieces, ¬ piece <+: c :: rest) :
    stripFrom pieces meaning 0 (c :: rest) = c :: stripFrom pieces meaning 0 rest := by
  have hfind : pieces.find? (·.isPrefixOf (c :: rest)) = none := by
    rw [List.find?_eq_none]
    intro piece hmem
    rw [List.isPrefixOf_iff_prefix]
    exact h piece hmem
  rw [stripFrom]
  simp only [hfind]

end

namespace Theme

variable {theme : Theme} {rest : Text}

theorem strip_piece {piece : Text} (hmem : piece ∈ theme.pieces)
    (hlongest : ∀ other ∈ theme.pieces, other <+: piece ++ rest → other.length ≤ piece.length) :
    theme.strip (piece ++ rest) = theme.markup.unescape piece ++ theme.strip rest :=
  stripFrom_piece (mem_pieces.mp hmem).1
    (theme.longestFirst_pieces.find?_eq_some_iff.mpr ⟨hmem, List.prefix_append piece rest, hlongest⟩)

theorem strip_char {c : Char} (h : ∀ piece ∈ theme.pieces, ¬ piece <+: c :: rest) :
    theme.strip (c :: rest) = c :: theme.strip rest :=
  stripFrom_char h

end Theme

end Highlighter
