import Highlighter.Color

/-!
# Colors in hexadecimal

* `Rgb.ofHex?_hex`: a mix comes back from its digits.
* `mem_hex`: no other characters than digits are written.
-/

namespace Highlighter

theorem hexDigit?_digitChar {n : Nat} (hn : n < 16) : hexDigit? (Nat.digitChar n) = some n := by
  revert n
  decide

theorem hexByte?_hexByte (byte : UInt8) :
    hexByte? (Nat.digitChar (byte.toNat / 16)) (Nat.digitChar (byte.toNat % 16)) = some byte := by
  have hlt := byte.toNat_lt
  have hsum : 16 * (byte.toNat / 16) + byte.toNat % 16 = byte.toNat := by omega
  rw [hexByte?, hexDigit?_digitChar (by omega), hexDigit?_digitChar (by omega)]
  show some (UInt8.ofNat (16 * (byte.toNat / 16) + byte.toNat % 16)) = some byte
  rw [hsum, UInt8.ofNat_toNat]

/-- A mix comes back from its six digits. -/
theorem Rgb.ofHex?_hex (mix : Rgb) : Rgb.ofHex? mix.hex = some mix := by
  show (hexByte? _ _).bind (fun red => (hexByte? _ _).bind fun green =>
    (hexByte? _ _).bind fun blue => some (Rgb.mk red green blue)) = some mix
  rw [hexByte?_hexByte, hexByte?_hexByte, hexByte?_hexByte]
  rfl

theorem mem_hexByte {byte : UInt8} {c : Char} (h : c ∈ hexByte byte) :
    ∃ n < 16, Nat.digitChar n = c := by
  have hlt := byte.toNat_lt
  rw [hexByte, List.mem_cons, List.mem_singleton] at h
  exact h.elim (fun heq => ⟨byte.toNat / 16, by omega, heq.symm⟩)
    fun heq => ⟨byte.toNat % 16, by omega, heq.symm⟩

theorem mem_hex {mix : Rgb} {c : Char} (h : c ∈ mix.hex) : ∃ n < 16, Nat.digitChar n = c := by
  rw [Rgb.hex, List.mem_append, List.mem_append] at h
  rcases h with (h | h) | h <;> exact mem_hexByte h

theorem Color.rgb_eq_none_iff {color : Color} : color.rgb = none ↔ color = .default := by
  cases color <;> simp [rgb]

end Highlighter
