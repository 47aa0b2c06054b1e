import Highlighter.Proofs.Color

/-!
# Texts that stand for colors

A color is written as a name, in letters of any case, or as six hexadecimal digits, with or without
a `#` before them; white space around it counts for nothing. All else is no color. No name consists
of hexadecimal digits, so it does not matter that names are looked up first.

* `Unicode.IsLowercase`: a lowercase form of a text, with a final sigma in either form.
* `Color.names`, `Color.ofName?_eq_some_iff`: the names of colors.
* `Color.IsHex`, `Color.ofHex?_of_isHex`, `Color.isHex_of_ofHex?`: the hexadecimal form.
* `Text.byteSlice?`, `Color.parseBytes?`: reading the digits by their bytes, which may fail, and
  `Color.run_parseBytes?`: that it does not.
* `Color.parse_notation`: what is read as a color, and that colors come back as they are written.
-/

namespace Highlighter

/-! ## Hexadecimal digits -/

/-- The hexadecimal digits, in both cases. -/
def hexDigits : Text := "0123456789abcdefABCDEF".toList

/-- What is checked of all characters of a text holds for each of them. -/
theorem of_all_decide {text : Text} {P : Char → Prop} [DecidablePred P]
    (h : (text.all fun c => decide (P c)) = true) {c : Char} (hc : c ∈ text) : P c :=
  of_decide_eq_true (List.all_eq_true.mp h c hc)

theorem hexDigit?_of_mem {c : Char} (h : c ∈ hexDigits) :
    ∃ n < 16, hexDigit? c = some n ∧ Nat.digitChar n = c.toLower :=
  of_all_decide (P := fun c => ∃ n < 16, hexDigit? c = some n ∧ Nat.digitChar n = c.toLower)
    (by decide) h

/-- No other character has a value. -/
theorem mem_hexDigits_of_hexDigit? {c : Char} {n : Nat} (h : hexDigit? c = some n) :
    c ∈ hexDigits := by
  have hascii : ∀ n < 128, (hexDigit? (Char.ofNat n)).isSome → Char.ofNat n ∈ hexDigits := by
    decide
  have hle : ∀ last : Char, c ≤ last → c.toNat ≤ last.toNat := fun last hlast =>
    UInt32.le_iff_toNat_le.mp (Char.le_def.mp hlast)
  have hlt : c.toNat < 128 := by
    rw [hexDigit?] at h
    split at h
    · rename_i hdigit
      exact Nat.lt_of_le_of_lt (hle _ hdigit.2) (by decide)
    · split at h
      · rename_i hlower
        exact Nat.lt_of_le_of_lt (hle _ hlower.2) (by decide)
      · split at h
        · rename_i hupper
          exact Nat.lt_of_le_of_lt (hle _ hupper.2) (by decide)
        · cases h
  have hmem := hascii c.toNat hlt
  rw [Char.ofNat_toNat, h] at hmem
  exact hmem rfl

/-- Two digits make a byte, and come back from it in lowercase. -/
theorem hexByte?_of_mem {high low : Char} (hhigh : high ∈ hexDigits) (hlow : low ∈ hexDigits) :
    ∃ byte, hexByte? high low = some byte ∧ hexByte byte = [high.toLower, low.toLower] := by
  obtain ⟨h, hh, hhigh, hhighChar⟩ := hexDigit?_of_mem hhigh
  obtain ⟨l, hl, hlow, hlowChar⟩ := hexDigit?_of_mem hlow
  refine ⟨UInt8.ofNat (16 * h + l), by rw [hexByte?, hhigh, hlow], ?_⟩
  have hvalue : (UInt8.ofNat (16 * h + l)).toNat = 16 * h + l :=
    UInt8.toNat_ofNat_of_lt (show 16 * h + l < 256 by omega)
  have hquotient : (16 * h + l) / 16 = h := by omega
  have hrest : (16 * h + l) % 16 = l := by omega
  rw [hexByte, hvalue, hquotient, hrest, hhighChar, hlowChar]

theorem mem_hexDigits_of_hexByte? {high low : Char} {byte : UInt8}
    (h : hexByte? high low = some byte) : high ∈ hexDigits ∧ low ∈ hexDigits := by
  rw [hexByte?] at h
  split at h
  · rename_i hhigh hlow
    exact ⟨mem_hexDigits_of_hexDigit? hhigh, mem_hexDigits_of_hexDigit? hlow⟩
  · cases h

namespace Color

/-- A text is written in hexadecimal: as six digits, with or without one `#` before them. -/
def IsHex (text digits : Text) : Prop :=
  digits.length = 6 ∧ (∀ c ∈ digits, c ∈ hexDigits) ∧ (text = digits ∨ text = '#' :: digits)

end Color

/-- Six digits make a mix, and come back from it in lowercase. -/
theorem Rgb.ofHex?_of_length {digits : Text} (hlen : digits.length = 6)
    (hdigits : ∀ c ∈ digits, c ∈ hexDigits) :
    ∃ mix, Rgb.ofHex? digits = some mix ∧ mix.hex = digits.map Char.toLower := by
  obtain ⟨r₁, r₀, g₁, g₀, b₁, b₀, rfl⟩ : ∃ r₁ r₀ g₁ g₀ b₁ b₀, digits = [r₁, r₀, g₁, g₀, b₁, b₀] := by
    match digits, hlen with
    | [r₁, r₀, g₁, g₀, b₁, b₀], _ => exact ⟨r₁, r₀, g₁, g₀, b₁, b₀, rfl⟩
  simp only [List.forall_mem_cons] at hdigits
  obtain ⟨hr₁, hr₀, hg₁, hg₀, hb₁, hb₀, -⟩ := hdigits
  obtain ⟨red, hred, hredHex⟩ := hexByte?_of_mem hr₁ hr₀
  obtain ⟨green, hgreen, hgreenHex⟩ := hexByte?_of_mem hg₁ hg₀
  obtain ⟨blue, hblue, hblueHex⟩ := hexByte?_of_mem hb₁ hb₀
  refine ⟨⟨red, green, blue⟩, ?_, ?_⟩
  · simp only [ofHex?, hred, hgreen, hblue]
    rfl
  · rw [hex, hredHex, hgreenHex, hblueHex]
    rfl

/-- A mix is read from three pairs of digits. -/
theorem Rgb.exists_of_ofHex? {digits : Text} {mix : Rgb} (h : Rgb.ofHex? digits = some mix) :
    ∃ r₁ r₀ g₁ g₀ b₁ b₀, digits = [r₁, r₀, g₁, g₀, b₁, b₀] ∧ hexByte? r₁ r₀ = some mix.red ∧
      hexByte? g₁ g₀ = some mix.green ∧ hexByte? b₁ b₀ = some mix.blue := by
  unfold ofHex? at h
  split at h
  · obtain ⟨red, hred, h⟩ := Option.bind_eq_some_iff.mp h
    obtain ⟨green, hgreen, h⟩ := Option.bind_eq_some_iff.mp h
    obtain ⟨blue, hblue, h⟩ := Option.bind_eq_some_iff.mp h
    obtain rfl := Option.some.inj h
    exact ⟨_, _, _, _, _, _, rfl, hred, hgreen, hblue⟩
  · cases h

/-- Nothing but six digits is read as a mix. -/
theorem Rgb.length_of_ofHex? {digits : Text} {mix : Rgb} (h : Rgb.ofHex? digits = some mix) :
    digits.length = 6 ∧ ∀ c ∈ digits, c ∈ hexDigits := by
  obtain ⟨r₁, r₀, g₁, g₀, b₁, b₀, rfl, hred, hgreen, hblue⟩ := Rgb.exists_of_ofHex? h
  obtain ⟨hr₁, hr₀⟩ := mem_hexDigits_of_hexByte? hred
  obtain ⟨hg₁, hg₀⟩ := mem_hexDigits_of_hexByte? hgreen
  obtain ⟨hb₁, hb₀⟩ := mem_hexDigits_of_hexByte? hblue
  simp only [List.forall_mem_cons]
  exact ⟨rfl, hr₁, hr₀, hg₁, hg₀, hb₁, hb₀, List.forall_mem_nil _⟩

namespace Color

/-- What is read in hexadecimal, with the `#` taken off. -/
theorem ofHex?_eq (text : Text) :
    ofHex? text =
      (Rgb.ofHex? (if text.head? = some '#' then text.drop 1 else text)).map mixed := by
  unfold ofHex?
  split
  · rfl
  · rename_i hother
    rw [if_neg]
    intro hhead
    obtain ⟨rest, rfl⟩ := List.head?_eq_some_iff.mp hhead
    exact hother rest rfl

/-- What is written in hexadecimal is read so, and comes back in lowercase. -/
theorem ofHex?_of_isHex {text digits : Text} (h : IsHex text digits) :
    ∃ mix, ofHex? text = some (mixed mix) ∧ mix.hex = digits.map Char.toLower := by
  obtain ⟨hlen, hdigits, htext⟩ := h
  obtain ⟨mix, hmix, hhex⟩ := Rgb.ofHex?_of_length hlen hdigits
  refine ⟨mix, ?_, hhex⟩
  rcases htext with rfl | rfl
  · rw [ofHex?_eq, if_neg, hmix]
    · rfl
    · intro hhead
      exact absurd (hdigits '#' (List.mem_of_mem_head? hhead)) (by decide)
  · rw [ofHex?, hmix]
    rfl

/-- Nothing else is read in hexadecimal. -/
theorem isHex_of_ofHex? {text : Text} {color : Color} (h : ofHex? text = some color) :
    ∃ digits, IsHex text digits := by
  rw [ofHex?_eq] at h
  obtain ⟨mix, hmix, -⟩ := Option.map_eq_some_iff.mp h
  obtain ⟨hlen, hdigits⟩ := Rgb.length_of_ofHex? hmix
  refine ⟨_, hlen, hdigits, ?_⟩
  split
  · rename_i hhead
    obtain ⟨rest, rfl⟩ := List.head?_eq_some_iff.mp hhead
    exact .inr rfl
  · exact .inl rfl

/-! ## Names -/

/-- The names of colors: that of the default color, and those of the palette. -/
def names : List (String × Color) :=
  ("default", default) :: Shade.names.map fun (name, shade) => (name, palette shade)

theorem ofName?_eq_some_iff {text : Text} {color : Color} :
    ofName? text = some color ↔ ∃ name, (name, color) ∈ names ∧ name.toList = text := by
  constructor
  · intro h
    unfold ofName? at h
    split at h
    · rename_i hdefault
      obtain rfl := Option.some.inj h
      exact ⟨"default", List.mem_cons_self, hdefault.symm⟩
    · obtain ⟨⟨name, shade⟩, hfind, rfl⟩ := Option.map_eq_some_iff.mp h
      refine ⟨name, List.mem_cons_of_mem _ ?_, by simpa using List.find?_some hfind⟩
      exact List.mem_map_of_mem (List.mem_of_find?_eq_some hfind)
  · rintro ⟨name, hmem, rfl⟩
    have hall : ∀ pair ∈ names, ofName? pair.1.toList = some pair.2 := by decide
    exact hall _ hmem

/-- What consists of digits and `#` only is no name, in whatever case it is. -/
theorem ofName?_lowercase_eq_none {text : Text} (h : ∀ c ∈ text, c ∈ '#' :: hexDigits) :
    ofName? (Unicode.lowercase text) = none := by
  have hlower : ('#' :: hexDigits).all fun c =>
      (Unicode.toLower c).all ('#' :: hexDigits).contains := by decide
  have hnames : names.all fun pair => pair.1.toList.any fun c => c ∉ '#' :: hexDigits := by decide
  rw [Option.eq_none_iff_forall_not_mem]
  intro color hcolor
  obtain ⟨name, hmem, hname⟩ := ofName?_eq_some_iff.mp hcolor
  obtain ⟨c, hc, hother⟩ := List.any_eq_true.mp (List.all_eq_true.mp hnames _ hmem)
  rw [hname, Unicode.lowercase, List.mem_flatMap] at hc
  obtain ⟨d, hd, hc⟩ := hc
  have hmem := List.all_eq_true.mp (List.all_eq_true.mp hlower d (h d hd)) c hc
  exact of_decide_eq_true hother (List.contains_iff_mem.mp hmem)

theorem IsHex.subset {text digits : Text} (h : IsHex text digits) :
    ∀ c ∈ text, c ∈ '#' :: hexDigits := by
  obtain ⟨-, hdigits, rfl | rfl⟩ := h
  · exact fun c hc => List.mem_cons_of_mem _ (hdigits c hc)
  · rintro c (_ | ⟨_, hc⟩)
    · exact List.mem_cons_self
    · exact List.mem_cons_of_mem _ (hdigits c hc)

end Color

/-! ## Final sigmas -/

namespace Unicode

/-- A sigma in the form that it has before other letters. -/
def medial (c : Char) : Char := if c = 'ς' then 'σ' else c

/-- A lowercase form of a text, whichever of its two forms a sigma has. -/
def IsLowercase (text lowered : Text) : Prop :=
  lowered.map medial = (lowercase text).map medial

instance (text lowered : Text) : Decidable (IsLowercase text lowered) :=
  inferInstanceAs (Decidable (_ = _))

theorem map_medial {text : Text} (h : 'ς' ∉ text) : text.map medial = text := by
  have heq : ∀ c ∈ text, medial c = c := fun c hc => if_neg fun (hsigma : c = 'ς') => h (hsigma ▸ hc)
  rw [List.map_congr_left heq, List.map_id']

/-- A text without a sigma is told from all others without regard to the form of sigmas. -/
theorem eq_of_map_medial {text other : Text} (hsigma : 'σ' ∉ text ∧ 'ς' ∉ text)
    (h : text.map medial = other.map medial) : other = text := by
  rw [map_medial hsigma.2] at h
  have hother : 'ς' ∉ other := fun hmem => hsigma.1 (h ▸ List.mem_map_of_mem hmem)
  rw [h, map_medial hother]

/-! ## White space -/

theorem dropWhile_append_of_neg {p : Char → Bool} {middle : Text} (hmiddle : ∀ c ∈ middle, ¬ p c)
    (hne : middle ≠ []) (after : Text) : (middle ++ after).dropWhile p = middle ++ after := by
  obtain ⟨c, rest, rfl⟩ := List.exists_cons_of_ne_nil hne
  exact List.dropWhile_cons_of_neg (hmiddle c List.mem_cons_self)

/-- White space around a text that has none is taken off. -/
theorem trim_append {before middle after : Text} (hbefore : ∀ c ∈ before, isWhiteSpace c)
    (hmiddle : ∀ c ∈ middle, ¬ isWhiteSpace c) (hne : middle ≠ [])
    (hafter : ∀ c ∈ after, isWhiteSpace c) : trim (before ++ (middle ++ after)) = middle := by
  have hreverse : ∀ c ∈ middle.reverse, ¬ isWhiteSpace c := fun c hc =>
    hmiddle c (List.mem_reverse.mp hc)
  rw [trim, List.dropWhile_append_of_pos hbefore, dropWhile_append_of_neg hmiddle hne,
    List.reverse_append, List.dropWhile_append_of_pos fun c hc => hafter c (List.mem_reverse.mp hc),
    ← List.append_nil middle.reverse,
    dropWhile_append_of_neg hreverse (mt List.reverse_eq_nil_iff.mp hne), List.append_nil,
    List.reverse_reverse]

end Unicode

/-! ## Bytes -/

namespace Text

/-- What is left of a text behind its first bytes, if a character ends there. -/
def dropBytes? : Nat → Text → Option Text
  | 0, text => some text
  | _ + 1, [] => none
  | count + 1, c :: rest =>
    if c.utf8Size ≤ count + 1 then dropBytes? (count + 1 - c.utf8Size) rest else none

/-- The first bytes of a text, if a character ends behind them. -/
def takeBytes? : Nat → Text → Option Text
  | 0, _ => some []
  | _ + 1, [] => none
  | count + 1, c :: rest =>
    if c.utf8Size ≤ count + 1 then (takeBytes? (count + 1 - c.utf8Size) rest).map (c :: ·)
    else none

/-- The part of a text between two offsets that count bytes. There is none if an offset is inside a
character, lies behind the end, or is not before the other. -/
def byteSlice? (text : Text) (start stop : Nat) : Option Text :=
  if start ≤ stop then (text.dropBytes? start).bind (takeBytes? (stop - start)) else none

theorem byteCount_of_ascii {text : Text} (h : ∀ c ∈ text, c.utf8Size = 1) :
    text.byteCount = text.length := by
  induction text with
  | nil => rfl
  | cons c rest ih =>
    obtain ⟨hc, hrest⟩ := List.forall_mem_cons.mp h
    rw [byteCount, hc, ih hrest, List.length_cons, Nat.add_comm]

theorem dropBytes?_of_ascii {text : Text} (h : ∀ c ∈ text, c.utf8Size = 1) {count : Nat}
    (hcount : count ≤ text.length) : dropBytes? count text = some (text.drop count) := by
  induction text generalizing count with
  | nil =>
    obtain rfl := Nat.le_zero.mp hcount
    rfl
  | cons c rest ih =>
    obtain ⟨hc, hrest⟩ := List.forall_mem_cons.mp h
    cases count with
    | zero => rfl
    | succ count =>
      rw [dropBytes?, hc, if_pos (Nat.le_add_left 1 count), Nat.add_sub_cancel,
        ih hrest (Nat.le_of_succ_le_succ hcount), List.drop_succ_cons]

theorem takeBytes?_of_ascii {text : Text} (h : ∀ c ∈ text, c.utf8Size = 1) {count : Nat}
    (hcount : count ≤ text.length) : takeBytes? count text = some (text.take count) := by
  induction text generalizing count with
  | nil =>
    obtain rfl := Nat.le_zero.mp hcount
    rfl
  | cons c rest ih =>
    obtain ⟨hc, hrest⟩ := List.forall_mem_cons.mp h
    cases count with
    | zero => rfl
    | succ count =>
      rw [takeBytes?, hc, if_pos (Nat.le_add_left 1 count), Nat.add_sub_cancel,
        ih hrest (Nat.le_of_succ_le_succ hcount), List.take_succ_cons]
      rfl

/-- In a text of one byte for each character, bytes are counted as characters are. -/
theorem byteSlice?_of_ascii {text : Text} (h : ∀ c ∈ text, c.utf8Size = 1) {start stop : Nat}
    (hstart : start ≤ stop) (hstop : stop ≤ text.length) :
    text.byteSlice? start stop = some (text.slice start stop) := by
  have hrest : ∀ c ∈ text.drop start, c.utf8Size = 1 := fun c hc => h c (List.mem_of_mem_drop hc)
  have hlen : stop - start ≤ (text.drop start).length := by
    rw [List.length_drop]
    exact Nat.sub_le_sub_right hstop start
  rw [byteSlice?, if_pos hstart, dropBytes?_of_ascii h (Nat.le_trans hstart hstop),
    Option.bind_some, takeBytes?_of_ascii hrest hlen]
  rfl

end Text

/-- The byte that hexadecimal digits stand for, possibly after a plus sign. -/
def byteOfHex? (text : Text) : Option UInt8 :=
  let digits := if text.head? = some '+' then text.drop 1 else text
  if digits = [] then none
  else
    (digits.mapM hexDigit?).bind fun values =>
      let value := values.foldl (fun value digit => 16 * value + digit) 0
      if value < UInt8.size then some (UInt8.ofNat value) else none

/-- Two digits are read as the byte that they stand for. -/
theorem byteOfHex?_of_mem {high low : Char} (hhigh : high ∈ hexDigits) (hlow : low ∈ hexDigits) :
    byteOfHex? [high, low] = hexByte? high low := by
  have hplus : ¬ [high, low].head? = some '+' := fun hhead =>
    absurd (Option.some.inj hhead ▸ hhigh) (by decide)
  obtain ⟨h, hh, hhigh, -⟩ := hexDigit?_of_mem hhigh
  obtain ⟨l, hl, hlow, -⟩ := hexDigit?_of_mem hlow
  have hvalue : 16 * (16 * 0 + h) + l < UInt8.size := by
    show 16 * (16 * 0 + h) + l < 256
    omega
  rw [byteOfHex?, if_neg hplus, if_neg (List.cons_ne_nil _ _), hexByte?, List.mapM_cons,
    List.mapM_cons, hhigh, hlow]
  show (if 16 * (16 * 0 + h) + l < UInt8.size then some (UInt8.ofNat (16 * (16 * 0 + h) + l))
    else none) = some (UInt8.ofNat (16 * h + l))
  rw [if_pos hvalue, Nat.mul_zero, Nat.zero_add]

namespace Color

/-- The byte that the digits between two offsets stand for, if the part can be cut out there. -/
def channel? (text digits : Text) (start stop : Nat) : ExceptT Fault Option UInt8 := do
  let part ← digits.byteSlice? start stop
  match byteOfHex? part with
  | some byte => return byte
  | none => throw (.invalidColor text)

/-- The color that hexadecimal digits stand for, where they are counted in bytes. -/
def readDigits? (text digits : Text) : ExceptT Fault Option Color :=
  if digits.byteCount ≠ 6 || !digits.all hexDigits.contains then throw (.invalidColor text)
  else do
    let red ← channel? text digits 0 2
    let green ← channel? text digits 2 4
    let blue ← channel? text digits 4 6
    return mixed ⟨red, green, blue⟩

/-- A color from a text, read by its bytes. Reading stops without an answer if the digits cannot be
cut out. -/
def parseBytes? (text : Text) : ExceptT Fault Option Color :=
  let trimmed := Unicode.trim text
  match ofName? (Unicode.lowercase trimmed) with
  | some color => return color
  | none => readDigits? text (if trimmed.head? = some '#' then trimmed.drop 1 else trimmed)

/-- Two digits that can be cut out are read as the byte that they stand for. -/
theorem run_channel? {digits : Text} {start stop : Nat} {high low : Char} {byte : UInt8}
    (hpart : digits.byteSlice? start stop = some [high, low])
    (hbyte : hexByte? high low = some byte) (text : Text) :
    (channel? text digits start stop).run = some (.ok byte) := by
  obtain ⟨hhigh, hlow⟩ := mem_hexDigits_of_hexByte? hbyte
  rw [← byteOfHex?_of_mem hhigh hlow] at hbyte
  rw [channel?, hpart]
  show (match byteOfHex? [high, low] with
    | some byte => (return byte : ExceptT Fault Option UInt8)
    | none => throw (Fault.invalidColor text)).run = _
  rw [hbyte]
  rfl

/-- What has an answer can be gone on from. -/
theorem run_bind_of_ok {α β : Type} {first : ExceptT Fault Option α} {answer : α}
    (h : first.run = some (.ok answer)) (next : α → ExceptT Fault Option β) :
    (first >>= next).run = (next answer).run := by
  rw [ExceptT.run_bind, h]
  rfl

theorem utf8Size_of_mem_hexDigits {c : Char} (h : c ∈ hexDigits) : c.utf8Size = 1 :=
  of_all_decide (P := fun c => c.utf8Size = 1) (by decide) h

/-- Digits are read as a mix or refused: a text of six bytes has fewer characters if one of them is
no digit, and then nothing is cut out of it. -/
theorem run_readDigits? (text digits : Text) :
    (readDigits? text digits).run =
      some (match Rgb.ofHex? digits with
        | some mix => .ok (mixed mix)
        | none => .error (.invalidColor text)) := by
  have hascii : (∀ c ∈ digits, c ∈ hexDigits) → ∀ c ∈ digits, c.utf8Size = 1 := fun hdigits c hc =>
    utf8Size_of_mem_hexDigits (hdigits c hc)
  have hall : digits.all hexDigits.contains ↔ ∀ c ∈ digits, c ∈ hexDigits := by
    simp only [List.all_eq_true, List.contains_iff_mem]
  rw [readDigits?]
  cases hmix : Rgb.ofHex? digits with
  | none =>
    have hrefused : (digits.byteCount ≠ 6 || !digits.all hexDigits.contains) = true := by
      rw [← Bool.not_eq_false, Bool.or_eq_false_iff, decide_eq_false_iff_not, Decidable.not_not,
        Bool.not_eq_false', hall]
      rintro ⟨hsize, hdigits⟩
      rw [Text.byteCount_of_ascii (hascii hdigits)] at hsize
      obtain ⟨mix, hsome, -⟩ := Rgb.ofHex?_of_length hsize hdigits
      cases hmix.symm.trans hsome
    rw [if_pos hrefused]
    rfl
  | some mix =>
    obtain ⟨hlen, hdigits⟩ := Rgb.length_of_ofHex? hmix
    have hsize := (Text.byteCount_of_ascii (hascii hdigits)).trans hlen
    have hslice : ∀ start stop, start ≤ stop → stop ≤ 6 →
        digits.byteSlice? start stop = some (digits.slice start stop) := fun start stop hle hstop =>
      Text.byteSlice?_of_ascii (hascii hdigits) hle (hlen ▸ hstop)
    have hread : ¬ (digits.byteCount ≠ 6 || !digits.all hexDigits.contains) = true := by
      rw [hsize, hall.mpr hdigits]
      decide
    obtain ⟨r₁, r₀, g₁, g₀, b₁, b₀, rfl, hred, hgreen, hblue⟩ := Rgb.exists_of_ofHex? hmix
    rw [if_neg hread, run_bind_of_ok (run_channel? (hslice 0 2 (by decide) (by decide)) hred text),
      run_bind_of_ok (run_channel? (hslice 2 4 (by decide) (by decide)) hgreen text),
      run_bind_of_ok (run_channel? (hslice 4 6 (by decide) (by decide)) hblue text)]
    rfl

/-- **Reading never stops without an answer.** -/
theorem run_parseBytes? (text : Text) : (parseBytes? text).run = some (parse text) := by
  rw [parseBytes?, parse, ofText?]
  cases hname : ofName? (Unicode.lowercase (Unicode.trim text)) with
  | some color => rfl
  | none =>
    rw [Option.none_or, ofHex?_eq, run_readDigits?]
    cases Rgb.ofHex? _ <;> rfl

/-! ## What is read -/

/-- What a name of a color is, in any case and with white space around it, is read as that color. -/
theorem parse_of_name {text : Text} {name : String} {color : Color} (hname : (name, color) ∈ names)
    (h : Unicode.lowercase (Unicode.trim text) = name.toList) : parse text = .ok color := by
  rw [parse, ofText?, ofName?_eq_some_iff.mpr ⟨name, hname, h.symm⟩]
  rfl

/-- What is written in hexadecimal, with white space around it, is read as a mix. -/
theorem parse_of_isHex {text digits : Text} (h : IsHex (Unicode.trim text) digits) :
    ∃ mix, parse text = .ok (mixed mix) ∧ mix.hex = digits.map Char.toLower := by
  obtain ⟨mix, hmix, hhex⟩ := ofHex?_of_isHex h
  refine ⟨mix, ?_, hhex⟩
  rw [parse, ofText?, ofName?_lowercase_eq_none h.subset, Option.none_or, hmix]

/-- What is neither of the two is refused. -/
theorem parse_eq_error {text : Text}
    (hname : ∀ name color, (name, color) ∈ names →
      name.toList ≠ Unicode.lowercase (Unicode.trim text))
    (hhex : ∀ digits, ¬ IsHex (Unicode.trim text) digits) :
    parse text = .error (.invalidColor text) := by
  have hnone : ofText? text = none := by
    rw [ofText?, Option.or_eq_none_iff, Option.eq_none_iff_forall_not_mem,
      Option.eq_none_iff_forall_not_mem]
    constructor
    · intro color hcolor
      obtain ⟨name, hmem, heq⟩ := ofName?_eq_some_iff.mp hcolor
      exact hname name color hmem heq
    · intro color hcolor
      obtain ⟨digits, hdigits⟩ := isHex_of_ofHex? hcolor
      exact hhex digits hdigits
  rw [parse, hnone]

/-- Names of colors have no sigma, so the form of sigmas does not matter for them. -/
theorem name_eq_lowered_iff {text lowered : Text} (h : Unicode.IsLowercase text lowered)
    {name : String} {color : Color} (hname : (name, color) ∈ names) :
    name.toList = lowered ↔ name.toList = Unicode.lowercase text := by
  have hall : ∀ pair ∈ names, 'σ' ∉ pair.1.toList ∧ 'ς' ∉ pair.1.toList := by decide
  have hsigma := hall _ hname
  constructor
  · rintro rfl
    exact (Unicode.eq_of_map_medial hsigma h).symm
  · intro heq
    rw [Unicode.IsLowercase, ← heq] at h
    exact (Unicode.eq_of_map_medial hsigma h.symm).symm

/-! ## What is written -/

/-- What is a digit in lowercase is one as it is. -/
theorem mem_hexDigits_of_toLower {c : Char} (h : c.toLower ∈ hexDigits) : c ∈ hexDigits := by
  have hcapitals : ∀ n < 91, 65 ≤ n → (Char.ofNat n).toLower ∈ hexDigits →
      Char.ofNat n ∈ hexDigits := by decide
  by_cases hupper : c.val ≥ 'A'.val ∧ c.val ≤ 'Z'.val
  · have hmem := hcapitals c.toNat (Nat.lt_succ_of_le (UInt32.le_iff_toNat_le.mp hupper.2))
      (UInt32.le_iff_toNat_le.mp hupper.1)
    rw [Char.ofNat_toNat] at hmem
    exact hmem h
  · have hlower : c.toLower = c := dif_neg hupper
    rwa [hlower] at h

/-- The digits that a mix is written with, in any case, are digits in hexadecimal. -/
theorem isHex_of_map_toLower {mix : Rgb} {written : Text}
    (h : written.map Char.toLower = mix.hex) :
    IsHex written written ∧ IsHex ('#' :: written) written := by
  have hlen : written.length = 6 := by
    rw [← List.length_map Char.toLower, h]
    rfl
  have hdigitChar : ∀ n < 16, Nat.digitChar n ∈ hexDigits := by decide
  have hdigits : ∀ c ∈ written, c ∈ hexDigits := fun c hc => by
    obtain ⟨n, hn, heq⟩ := mem_hex (h ▸ List.mem_map_of_mem hc)
    exact mem_hexDigits_of_toLower (heq ▸ hdigitChar n hn)
  exact ⟨⟨hlen, hdigits, .inl rfl⟩, hlen, hdigits, .inr rfl⟩

theorem Rgb.hex_injective {mix other : Rgb} (h : mix.hex = other.hex) : mix = other := by
  have hmix := Rgb.ofHex?_hex mix
  rw [h, Rgb.ofHex?_hex] at hmix
  exact (Option.some.inj hmix).symm

theorem not_isWhiteSpace_of_mem {c : Char} (h : c ∈ '#' :: hexDigits) :
    ¬ Unicode.isWhiteSpace c :=
  of_all_decide (P := fun c => ¬ Unicode.isWhiteSpace c) (by decide) h

/-- A mix comes back from its digits, whatever their case and the white space around them. -/
theorem parse_of_hex {mix : Rgb} {before text after digits : Text}
    (hbefore : ∀ c ∈ before, Unicode.isWhiteSpace c) (hafter : ∀ c ∈ after, Unicode.isWhiteSpace c)
    (htext : IsHex text digits) (hdigits : digits.map Char.toLower = mix.hex) :
    parse (before ++ (text ++ after)) = .ok (mixed mix) := by
  have hne : text ≠ [] := by
    obtain ⟨hlen, -, rfl | rfl⟩ := htext
    · exact List.ne_nil_of_length_eq_add_one hlen
    · exact List.cons_ne_nil _ _
  have htrim : Unicode.trim (before ++ (text ++ after)) = text :=
    Unicode.trim_append hbefore (fun c hc => not_isWhiteSpace_of_mem (htext.subset c hc)) hne hafter
  rw [← htrim] at htext
  obtain ⟨other, hother, hhex⟩ := parse_of_isHex htext
  rw [hother, Rgb.hex_injective (hhex.trans hdigits)]

/-- **The notation of colors.** A text, without the white space around it, stands for the color that
it names in lowercase, or for the mix that its digits are written for, and for nothing else; what is
refused is shown as it was given. Reading it by its bytes always has an answer. A color that stands
for a mix comes back as this mix from its digits, in any case, with or without the `#`, and with any
white space around them. -/
theorem parse_notation :
    (∀ text lowered, Unicode.IsLowercase (Unicode.trim text) lowered →
      (∀ name color, (name, color) ∈ names → name.toList = lowered → parse text = .ok color) ∧
      (∀ digits, IsHex (Unicode.trim text) digits → ∃ mix, parse text = .ok (mixed mix) ∧
        (mixed mix).hex? = some ('#' :: digits.map Char.toLower)) ∧
      ((∀ name color, (name, color) ∈ names → name.toList ≠ lowered) →
        (∀ digits, ¬ IsHex (Unicode.trim text) digits) →
          parse text = .error (.invalidColor text)) ∧
      (parseBytes? text).run = some (parse text)) ∧
    ∀ color : Color, color ≠ default → ∃ mix digits, color.rgb = some mix ∧
      color.hex? = some ('#' :: digits) ∧
      ∀ before written after, (∀ c ∈ before, Unicode.isWhiteSpace c) →
        (∀ c ∈ after, Unicode.isWhiteSpace c) → written.map Char.toLower = digits →
          parse (before ++ ('#' :: written ++ after)) = .ok (mixed mix) ∧
          parse (before ++ (written ++ after)) = .ok (mixed mix) := by
  constructor
  · intro text lowered hlowered
    refine ⟨fun name color hname heq => ?_, fun digits hdigits => ?_, fun hname hhex => ?_,
      run_parseBytes? text⟩
    · exact parse_of_name hname ((name_eq_lowered_iff hlowered hname).mp heq).symm
    · obtain ⟨mix, hmix, hhex⟩ := parse_of_isHex hdigits
      exact ⟨mix, hmix, congrArg (fun digits => some ('#' :: digits)) hhex⟩
    · refine parse_eq_error (fun name color hmem heq => ?_) hhex
      exact hname name color hmem ((name_eq_lowered_iff hlowered hmem).mpr heq)
  · intro color hcolor
    obtain ⟨mix, hmix⟩ := Option.ne_none_iff_exists'.mp (mt rgb_eq_none_iff.mp hcolor)
    refine ⟨mix, mix.hex, hmix, by rw [hex?, hmix]; rfl, ?_⟩
    intro before written after hbefore hafter hwritten
    obtain ⟨hplain, hmarked⟩ := isHex_of_map_toLower hwritten
    exact ⟨parse_of_hex hbefore hafter hmarked hwritten,
      parse_of_hex hbefore hafter hplain hwritten⟩

/-- The Kelvin sign is a `k` in lowercase. Three characters of two bytes each are no six digits, and
the blank behind them is shown. The digits of red may be capitals. -/
theorem parse_notation_black :
    Unicode.IsLowercase (Unicode.trim "\tBlac\u212a".toList) "black".toList ∧
      ("black", palette .black) ∈ names ∧
      parse "\tBlac\u212a".toList = .ok (palette .black) ∧
    IsHex (Unicode.trim "56Aaf0 ".toList) "56Aaf0".toList ∧
      (∃ mix, parse "56Aaf0 ".toList = .ok (mixed mix) ∧
        (mixed mix).hex? = some "#56aaf0".toList) ∧
    Unicode.IsLowercase (Unicode.trim "ééé ".toList) "ééé".toList ∧
      (∀ name color, (name, color) ∈ names → name.toList ≠ "ééé".toList) ∧
      (∀ digits, ¬ IsHex (Unicode.trim "ééé ".toList) digits) ∧
      parse "ééé ".toList = .error (.invalidColor "ééé ".toList) ∧
    palette .red ≠ default ∧ (∀ c ∈ " ".toList, Unicode.isWhiteSpace c) ∧
      "Cd3131".toList.map Char.toLower = Shade.red.rgb.hex ∧
      parse " #Cd3131".toList = .ok (mixed Shade.red.rgb) := by
  obtain ⟨hread, hwritten⟩ := parse_notation
  have hblack : Unicode.IsLowercase (Unicode.trim "\tBlac\u212a".toList) "black".toList := by decide
  have hname : ("black", palette .black) ∈ names := by decide
  have hblue : Unicode.IsLowercase (Unicode.trim "56Aaf0 ".toList) "56aaf0".toList := by decide
  have hdigits : IsHex (Unicode.trim "56Aaf0 ".toList) "56Aaf0".toList :=
    ⟨rfl, fun c hc => List.contains_iff_mem.mp (List.all_eq_true.mp (by decide) c hc), .inl rfl⟩
  have haccents : Unicode.IsLowercase (Unicode.trim "ééé ".toList) "ééé".toList := by decide
  have hother : ∀ name color, (name, color) ∈ names → name.toList ≠ "ééé".toList := by
    have hall : ∀ pair ∈ names, pair.1.toList ≠ "ééé".toList := by decide
    exact fun name color hmem => hall _ hmem
  have hnodigits : ∀ digits, ¬ IsHex (Unicode.trim "ééé ".toList) digits := fun digits h =>
    absurd (h.subset 'é' (by decide)) (by decide)
  have hspace : ∀ c ∈ " ".toList, Unicode.isWhiteSpace c := List.forall_mem_singleton.mpr rfl
  obtain ⟨mix, digits, hmix, hhex, hback⟩ := hwritten (palette .red) Color.noConfusion
  obtain rfl := Option.some.inj hmix
  obtain rfl := (List.cons.inj (Option.some.inj hhex)).2
  have hcase : "Cd3131".toList.map Char.toLower = Shade.red.rgb.hex := by decide
  exact ⟨hblack, hname, (hread _ _ hblack).1 _ _ hname rfl, hdigits,
    (hread _ _ hblue).2.1 _ hdigits, haccents, hother, hnodigits,
    (hread _ _ haccents).2.2.1 hother hnodigits, Color.noConfusion, hspace, hcase,
    (hback " ".toList "Cd3131".toList [] hspace (List.forall_mem_nil _) hcase).1⟩

end Color

end Highlighter
