import Highlighter.Config

/-!
# What contents hold

Which contents a text can be read from, which hold settings, and what is told of those that do not.

* `bind_eq_ok_iff`, `bind_eq_error_iff`: what comes out of two parts, one after the other.
* `readText_eq_ok_iff`, `readText_eq_error_iff`: the text of contents, and what is wrong with them.
* `Unreadable`, `Unusable`: what is wrong with contents, and with those that are to hold settings.
* `Config.ofFile_eq_ok_iff`, `Config.ofFile_eq_error_iff`: the settings of contents.
-/

namespace Highlighter

/-! ## One part after the other -/

section Parts

variable {α β : Type} {first : Except Fault α} {second : α → Except Fault β}

theorem bind_eq_ok_iff {b : β} :
    first >>= second = .ok b ↔ ∃ a, first = .ok a ∧ second a = .ok b := by
  cases first <;> simp [Bind.bind, Except.bind]

/-- The fault of the first part counts, and the second part is not looked at then. -/
theorem bind_eq_error_iff {fault : Fault} :
    first >>= second = .error fault ↔
      first = .error fault ∨ ∃ a, first = .ok a ∧ second a = .error fault := by
  cases first <;> simp [Bind.bind, Except.bind]

end Parts

variable {decode : Toml.Decoder} {contents : Contents} {text : Text} {fault : Fault}

/-! ## Texts -/

theorem fromUTF8?_eq_some_iff {bytes : ByteArray} {string : String} :
    String.fromUTF8? bytes = some string ↔ bytes = string.toByteArray := by
  unfold String.fromUTF8?
  constructor
  · intro h
    split at h
    · obtain rfl := Option.some.inj h
      rfl
    · cases h
  · rintro rfl
    exact dif_pos string.isValidUTF8

/-- **The text of contents** is the one whose UTF-8 they are. -/
theorem readText_eq_ok_iff : readText contents = .ok text ↔ contents = .ok text.utf8Encode := by
  constructor
  · intro h
    rcases contents with error | bytes
    · cases h
    · rw [readText] at h
      split at h
      · rename_i string hstring
        obtain rfl := Except.ok.inj h
        rw [fromUTF8?_eq_some_iff.mp hstring, String.utf8Encode_toList]
      · cases h
  · rintro rfl
    have hstring := fromUTF8?_eq_some_iff.mpr (String.toByteArray_ofList (l := text)).symm
    rw [readText, hstring]
    exact congrArg Except.ok String.toList_ofList

/-- What is wrong with contents that hold no text. -/
inductive Unreadable : Contents → Fault → Prop where
  | failed (error : ReadError) : Unreadable (.error error) (.unreadable error)
  | notUtf8 {bytes : ByteArray} : (∀ text : Text, bytes ≠ text.utf8Encode) →
      Unreadable (.ok bytes) (.unreadable .notUtf8)

/-- **Contents without a text** are refused for what is wrong with them. -/
theorem readText_eq_error_iff : readText contents = .error fault ↔ Unreadable contents fault := by
  constructor
  · intro h
    rcases contents with error | bytes
    · obtain rfl := Except.error.inj h
      exact .failed error
    · have hnone : ∀ text : Text, bytes ≠ text.utf8Encode := by
        rintro text rfl
        cases h.symm.trans (readText_eq_ok_iff.mpr rfl)
      rw [readText] at h
      split at h
      · cases h
      · obtain rfl := Except.error.inj h
        exact .notUtf8 hnone
  · intro h
    cases h with
    | failed error => rfl
    | notUtf8 hnone =>
      rw [readText]
      split
      · rename_i string hstring
        rw [fromUTF8?_eq_some_iff, ← String.utf8Encode_toList] at hstring
        exact absurd hstring (hnone _)
      · rfl

/-! ## Settings -/

/-- What is wrong with contents that hold no settings. -/
inductive Unusable (decode : Toml.Decoder) : Contents → Fault → Prop where
  | unreadable {contents : Contents} {fault : Fault} :
      Unreadable contents fault → Unusable decode contents fault
  | undecodable (text : Text) {fault : Fault} :
      Config.parse decode text = .error fault → Unusable decode (.ok text.utf8Encode) fault

namespace Config

/-- **The settings of contents** are those that their text decodes to. -/
theorem ofFile_eq_ok_iff {config : Config} :
    ofFile decode contents = .ok config ↔
      ∃ text : Text, contents = .ok text.utf8Encode ∧ parse decode text = .ok config := by
  unfold ofFile
  simp only [bind_eq_ok_iff, readText_eq_ok_iff]

/-- **Contents without settings** are refused for what is wrong with them. -/
theorem ofFile_eq_error_iff :
    ofFile decode contents = .error fault ↔ Unusable decode contents fault := by
  unfold ofFile
  simp only [bind_eq_error_iff, readText_eq_ok_iff, readText_eq_error_iff]
  constructor
  · rintro (h | ⟨text, rfl, h⟩)
    · exact .unreadable h
    · exact .undecodable text h
  · intro h
    cases h with
    | unreadable h => exact .inl h
    | undecodable text h => exact .inr ⟨text, rfl, h⟩

end Config

end Highlighter
