/-!
# Texts

A text is a sequence of characters, and every offset into it counts characters.

* `Text.slice`: the part of a text between two offsets.
* `Text.byteCount`: the size of a text in UTF-8.
* `Text.decimal`: the decimal digits of a number.
-/

namespace Highlighter

/-- A text, as the sequence of its characters. -/
abbrev Text := List Char

namespace Text

/-- The characters from offset `start` up to, but without, offset `stop`. Offsets past the end
stand for the end, and the part is empty if `stop` does not lie after `start`. -/
def slice (text : Text) (start stop : Nat) : Text := (text.drop start).take (stop - start)

theorem slice_add (text : Text) (start n : Nat) :
    text.slice start (start + n) = (text.drop start).take n := by
  rw [slice, Nat.add_sub_cancel_left]

theorem slice_drop (text : Text) (k start stop : Nat) :
    slice (text.drop k) start stop = text.slice (k + start) (k + stop) := by
  rw [slice, slice, List.drop_drop, Nat.add_sub_add_left]

theorem slice_cons_succ (c : Char) (rest : Text) (start stop : Nat) :
    slice (c :: rest) (start + 1) (stop + 1) = slice rest start stop := by
  rw [slice, slice, List.drop_succ_cons, Nat.add_sub_add_right]

theorem drop_eq_cons {text : Text} {i : Nat} {c : Char} (hi : text[i]? = some c) :
    text.drop i = c :: text.drop (i + 1) := by
  obtain ⟨hlt, rfl⟩ := List.getElem?_eq_some_iff.mp hi
  exact List.drop_eq_getElem_cons hlt

/-- A part of a text, with what stands before it and what stands behind it. -/
theorem take_slice_drop {text : Text} {start stop : Nat} (h : start ≤ stop) :
    text.take start ++ text.slice start stop ++ text.drop stop = text := by
  obtain ⟨n, rfl⟩ := Nat.exists_eq_add_of_le h
  rw [slice_add, ← List.take_add, List.take_append_drop]

/-- The number of bytes that a text has in UTF-8. -/
def byteCount : Text → Nat
  | [] => 0
  | c :: rest => c.utf8Size + byteCount rest

/-- The decimal digits of a number. -/
def decimal (n : Nat) : Text := Nat.toDigits 10 n

end Text

end Highlighter
