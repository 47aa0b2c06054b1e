import Highlighter.Proofs.Color
import Highlighter.Quoted

/-!
# Reading quoted text

Text between quotes can be read back one character after the other: what is written for a character
does not depend on those around it, and the reader knows from the first character of it where it
ends.

* `QuoteState`, `unquoteFrom`, `unquote?`: a reader for quoted text, and what it is in the middle of.
* `unquoteFrom_toDigits`: a code point comes back from its digits.
* `unquoteFrom_quoteChar`, `unquote?_quote`: a character and a text come back as they were.
* `not_mem_quote`: quoted text goes on one line.
-/

namespace Highlighter

/-! ## The reader -/

/-- What a reader of quoted text is in the middle of: nothing, or what a backslash has begun. -/
inductive QuoteState where
  | plain
  | escape
  /-- A code point is to follow, between braces. -/
  | opening
  /-- The digits of a code point, of which the ones read so far have a value. -/
  | digits (value : Nat)
deriving DecidableEq, Repr

/-- The character that a backslash with another character stands for. -/
def escaped? : Char → Option Char
  | '0' => some '\x00'
  | 't' => some '\t'
  | 'r' => some '\r'
  | 'n' => some '\n'
  | '"' => some '"'
  | '\\' => some '\\'
  | _ => none

/-- The text up to a closing quote, with nothing after it. -/
def unquoteFrom : QuoteState → Text → Option Text
  | _, [] => none
  | .plain, c :: rest =>
    if c = '"' then if rest = [] then some [] else none
    else if c = '\\' then unquoteFrom .escape rest
    else (unquoteFrom .plain rest).map (c :: ·)
  | .escape, c :: rest =>
    if c = 'u' then unquoteFrom .opening rest
    else (escaped? c).bind fun char => (unquoteFrom .plain rest).map (char :: ·)
  | .opening, c :: rest => if c = '{' then unquoteFrom (.digits 0) rest else none
  | .digits value, c :: rest =>
    if c = '}' then
      if value.isValidChar then (unquoteFrom .plain rest).map (Char.ofNat value :: ·) else none
    else (hexDigit? c).bind fun digit => unquoteFrom (.digits (16 * value + digit)) rest

/-- The text that a quoted text stands for. -/
def unquote? : Text → Option Text
  | '"' :: rest => unquoteFrom .plain rest
  | _ => none

/-! ## Code points -/

/-- The digits of a number are those that add up to it, from the first one on. -/
theorem exists_toDigits_eq (n : Nat) :
    ∃ digits : List Nat, (∀ digit ∈ digits, digit < 16) ∧
      Nat.toDigits 16 n = digits.map Nat.digitChar ∧
      digits.foldl (fun value digit => 16 * value + digit) 0 = n := by
  induction n using Nat.strongRecOn with
  | ind n ih =>
    by_cases hn : n < 16
    · refine ⟨[n], List.forall_mem_singleton.mpr hn, Nat.toDigits_of_lt_base hn, ?_⟩
      rw [List.foldl_cons, List.foldl_nil, Nat.mul_zero, Nat.zero_add]
    · obtain ⟨digits, hdigits, heq, hvalue⟩ := ih (n / 16) (by omega)
      refine ⟨digits ++ [n % 16], ?_, ?_, ?_⟩
      · intro digit hdigit
        rcases List.mem_append.mp hdigit with hmem | hmem
        · exact hdigits digit hmem
        · rw [List.mem_singleton.mp hmem]
          exact Nat.mod_lt n (by decide)
      · rw [Nat.toDigits_of_base_le (by decide) (Nat.le_of_not_lt hn), heq, List.map_append]
        rfl
      · rw [List.foldl_append, hvalue, List.foldl_cons, List.foldl_nil, Nat.div_add_mod]

/-- Digits are read onto those before them. -/
theorem unquoteFrom_map_digitChar (value : Nat) {digits : List Nat}
    (h : ∀ digit ∈ digits, digit < 16) (rest : Text) :
    unquoteFrom (.digits value) (digits.map Nat.digitChar ++ rest) =
      unquoteFrom (.digits (digits.foldl (fun value digit => 16 * value + digit) value)) rest := by
  have hbrace : ∀ digit < 16, Nat.digitChar digit ≠ '}' := by decide
  induction digits generalizing value with
  | nil => rfl
  | cons digit digits ih =>
    obtain ⟨hdigit, hdigits⟩ := List.forall_mem_cons.mp h
    rw [List.map_cons, List.cons_append, unquoteFrom, if_neg (hbrace digit hdigit),
      hexDigit?_digitChar hdigit, Option.bind_some, ih _ hdigits, List.foldl_cons]

/-- **A code point comes back** from its digits between braces. -/
theorem unquoteFrom_codePointEscape (c : Char) (rest : Text) :
    unquoteFrom .plain (codePointEscape c ++ rest) = (unquoteFrom .plain rest).map (c :: ·) := by
  obtain ⟨digits, hdigits, heq, hvalue⟩ := exists_toDigits_eq c.toNat
  have hvalid : c.toNat.isValidChar := c.valid
  rw [codePointEscape, heq, List.append_assoc, List.append_assoc]
  show unquoteFrom (.digits 0) (digits.map Nat.digitChar ++ ('}' :: rest)) = _
  rw [unquoteFrom_map_digitChar 0 hdigits, hvalue, unquoteFrom, if_pos rfl, if_pos hvalid,
    Char.ofNat_toNat]

/-! ## Characters and texts -/

/-- **A character comes back** from what is written for it, whatever follows. -/
theorem unquoteFrom_quoteChar (c : Char) (rest : Text) :
    unquoteFrom .plain (quoteChar c ++ rest) = (unquoteFrom .plain rest).map (c :: ·) := by
  fun_cases quoteChar c with
  | case1 | case2 | case3 | case4 | case5 | case6 => rfl
  | case7 => exact unquoteFrom_codePointEscape c rest
  | case8 =>
    rename_i hquote hbackslash _
    rw [List.singleton_append, unquoteFrom, if_neg hquote, if_neg hbackslash]

/-- **A text comes back** from what is written for it between quotes. -/
theorem unquote?_quote (text : Text) : unquote? (quote text) = some text := by
  show unquoteFrom .plain (text.flatMap quoteChar ++ ['"']) = some text
  induction text with
  | nil => rfl
  | cons c text ih =>
    rw [List.flatMap_cons, List.append_assoc, unquoteFrom_quoteChar, ih]
    rfl

theorem not_mem_codePointEscape (c : Char) : '\n' ∉ codePointEscape c := by
  have hdigitChar : ∀ digit < 16, Nat.digitChar digit ≠ '\n' := by decide
  obtain ⟨digits, hdigits, heq, -⟩ := exists_toDigits_eq c.toNat
  rw [codePointEscape, heq, List.mem_append, List.mem_append]
  rintro ((hopener | hdigit) | hcloser)
  · exact absurd hopener (by decide)
  · obtain ⟨digit, hdigit, hnewline⟩ := List.mem_map.mp hdigit
    exact hdigitChar digit (hdigits digit hdigit) hnewline
  · exact absurd hcloser (by decide)

theorem not_mem_quoteChar (c : Char) : '\n' ∉ quoteChar c := by
  fun_cases quoteChar c with
  | case1 | case2 | case3 | case4 | case5 | case6 => decide
  | case7 => exact not_mem_codePointEscape c
  | case8 =>
    rename_i hnewline _ _ _
    exact fun hmem => hnewline (List.mem_singleton.mp hmem).symm

/-- Quoted text goes on one line. -/
theorem not_mem_quote (text : Text) : '\n' ∉ quote text := by
  rw [quote, List.cons_append, List.mem_cons, List.mem_append, List.mem_flatMap]
  rintro (hquote | ⟨c, -, hmem⟩ | hquote)
  · exact absurd hquote (by decide)
  · exact not_mem_quoteChar c hmem
  · exact absurd hquote (by decide)

end Highlighter
