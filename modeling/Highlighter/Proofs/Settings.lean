import Highlighter.Config
import Highlighter.Proofs.KeyOrder

/-!
# What settings say

A table of settings is read key by key, and reading stops at the first fault. Here it is read as a
whole: all that is wrong with it, in order, and, for each setting by itself, what the table says of
it.

* `Config.faults`: everything that is wrong with a table, whether it comes first or not.
* `Config.declared`: the settings that a table declares, each from the key that it is kept under.
* `Config.ofTable_eq`: a table is refused for the first of its faults, and stands for the settings
  that it declares if it has none.
* `Config.known`, `Config.ofTable_known`: what a table holds besides known keys and fields does not
  count.
* `Config.tags_theme`, `Config.theme_congr`: the tags for the settings, which do not depend on a
  style for plain text.
* `Config.pairwise_styleEntries`: if the keys of a table ascend, then so do those of its styles.
* `Config.parse_eq_declared`: the settings in a document, however documents are decoded.
-/

namespace Highlighter

open Toml (Table Value)

/-! ## First faults -/

/-- A result, unless something is wrong: then the first thing that is. -/
def unlessFaulty {α : Type} (faults : List Fault) (a : α) : Except Fault α :=
  match faults with
  | [] => .ok a
  | fault :: _ => .error fault

/-- What is wrong where a value is missing. -/
def ifMissing {α : Type} (fault : Fault) (value : Option α) : List Fault :=
  if value.isSome then [] else [fault]

section Faulty

variable {α β : Type} {first second : List Fault} {a : α} {b : β}

theorem bind_unlessFaulty {next : α → Except Fault β} (h : next a = unlessFaulty second b) :
    (unlessFaulty first a >>= next) = unlessFaulty (first ++ second) b := by
  cases first with
  | nil => exact h
  | cons fault first => rfl

/-- A part of a sequence in which nothing further can be wrong. -/
theorem bind_unlessFaulty_ok {next : α → Except Fault β} (h : next a = .ok b) :
    (unlessFaulty first a >>= next) = unlessFaulty first b := by
  have hbind : (unlessFaulty first a >>= next) = unlessFaulty (first ++ []) b := bind_unlessFaulty h
  rw [hbind, List.append_nil]

theorem orFault_eq (fault : Fault) (value : Option α) (other : α) :
    Config.orFault fault value = unlessFaulty (ifMissing fault value) (value.getD other) := by
  cases value <;> rfl

end Faulty

/-- The markup that a name stands for, whatever its case. -/
def Markup.ofName? (name : Text) : Option Markup :=
  (names.find? (·.1.toList = Unicode.lowercase name)).map (·.2)

theorem Markup.parse_eq (name : Text) (other : Markup) :
    parse name = unlessFaulty (ifMissing (.unknownMarkup name) (ofName? name))
      ((ofName? name).getD other) := by
  unfold parse ofName?
  cases names.find? (·.1.toList = Unicode.lowercase name) <;> rfl

theorem Color.parse_eq (text : Text) (other : Color) :
    parse text = unlessFaulty (ifMissing (.invalidColor text) (ofText? text))
      ((ofText? text).getD other) := by
  unfold parse
  cases ofText? text <;> rfl

namespace TokenType

theorem eq_of_name {type other : TokenType} (h : type.name.toList = other.name.toList) :
    type = other := by
  have hall : ∀ a ∈ all, ∀ b ∈ all, a.name.toList = b.name.toList → a = b := by decide
  exact hall type (mem_all type) other (mem_all other) h

theorem ofName?_eq_some_iff {name : Text} {type : TokenType} :
    ofName? name = some type ↔ type.name.toList = Unicode.lowercase name := by
  constructor
  · exact fun h => by simpa using List.find?_some h
  · intro h
    cases hfound : ofName? name with
    | none => exact absurd (decide_eq_true h) (List.find?_eq_none.mp hfound type (mem_all type))
    | some other =>
      have hother : other.name.toList = Unicode.lowercase name := by
        simpa using List.find?_some hfound
      rw [eq_of_name (h.trans hother.symm)]

end TokenType

namespace Config

/-! ## Markup and indentation -/

/-- What is wrong with the markup of a table. -/
def markupFaults (table : Table) : List Fault :=
  match table.get? "markup".toList with
  | none => []
  | some (.string name) => ifMissing (.unknownMarkup name) (Markup.ofName? name)
  | some _ => [.markupNotString]

/-- The markup that a table names. -/
def declaredMarkup (table : Table) : Markup :=
  match table.get? "markup".toList with
  | some (.string name) => (Markup.ofName? name).getD .richText
  | _ => .richText

theorem readMarkup_eq (table : Table) :
    readMarkup table = unlessFaulty (markupFaults table) (declaredMarkup table) := by
  unfold readMarkup markupFaults declaredMarkup
  cases table.get? "markup".toList with
  | none => rfl
  | some value =>
    cases value with
    | string name => exact Markup.parse_eq name .richText
    | _ => rfl

/-- What is wrong with the indentation of a table. -/
def indentFaults (table : Table) : List Fault :=
  match table.get? "indent".toList with
  | none | some (.string _) | some (.integer _) => []
  | some _ => [.indentNotUnit]

/-- The unit of indentation that a table gives: a text, or at least one and at most 16 spaces. -/
def declaredIndent (table : Table) : Text :=
  match table.get? "indent".toList with
  | some (.string unit) => unit
  | some (.integer width) => List.replicate (max 1 (min width 16)).toNat ' '
  | _ => List.replicate 4 ' '

theorem readIndent_eq (table : Table) :
    readIndent table = unlessFaulty (indentFaults table) (declaredIndent table) := by
  unfold readIndent indentFaults declaredIndent
  cases table.get? "indent".toList with
  | none => rfl
  | some value => cases value <;> rfl

/-! ## One style -/

/-- What is wrong with the color among the fields of a style. -/
def colorFaults (name : Text) (fields : Table) : List Fault :=
  match fields.get? "color".toList with
  | none => []
  | some (.string text) => ifMissing (.invalidColor text) (Color.ofText? text)
  | some _ => [.colorNotString name]

/-- The color that the fields of a style give, if they give one. -/
def declaredColor (fields : Table) (color : Color) : Color :=
  match fields.get? "color".toList with
  | some (.string text) => (Color.ofText? text).getD color
  | _ => color

theorem readColor_eq (name : Text) (fields : Table) (color : Color) :
    readColor name fields color =
      unlessFaulty (colorFaults name fields) (declaredColor fields color) := by
  unfold readColor colorFaults declaredColor
  cases fields.get? "color".toList with
  | none => rfl
  | some value =>
    cases value with
    | string text => exact Color.parse_eq text color
    | _ => rfl

/-- What is wrong with a flag among the fields of a style. -/
def flagFaults (name : Text) (fields : Table) (flag : Flag) : List Fault :=
  match fields.get? flag.name.toList with
  | none | some (.boolean _) => []
  | some _ => [.flagNotBoolean name flag]

/-- The value that the fields of a style give to a flag, if they give it one. -/
def declaredFlag (fields : Table) (flag : Flag) (value : Bool) : Bool :=
  match fields.get? flag.name.toList with
  | some (.boolean other) => other
  | _ => value

theorem readFlag_eq (name : Text) (fields : Table) (flag : Flag) (value : Bool) :
    readFlag name fields flag value =
      unlessFaulty (flagFaults name fields flag) (declaredFlag fields flag value) := by
  unfold readFlag flagFaults declaredFlag
  cases fields.get? flag.name.toList with
  | none => rfl
  | some value => cases value <;> rfl

/-- What is wrong with the value of a style: its form, or what is in it. -/
def valueFaults (name : Text) : Value → List Fault
  | .string text => ifMissing (.invalidColor text) (Color.ofText? text)
  | .table fields =>
    colorFaults name fields ++ (flagFaults name fields .bold ++ flagFaults name fields .italic)
  | _ => [.styleNotStyle name]

/-- The style that a value makes of another one: it replaces the color, or the fields that it
gives. -/
def declaredStyle (base : Style) : Value → Style
  | .string text => { base with foreground := (Color.ofText? text).getD base.foreground }
  | .table fields =>
    { foreground := declaredColor fields base.foreground
      bold := declaredFlag fields .bold base.bold
      italic := declaredFlag fields .italic base.italic }
  | _ => base

theorem readStyle_eq (name : Text) (value : Value) (base : Style) :
    readStyle name value base =
      unlessFaulty (valueFaults name value) (declaredStyle base value) := by
  cases value with
  | string text =>
    rw [readStyle, Color.parse_eq text base.foreground]
    exact bind_unlessFaulty_ok rfl
  | table fields =>
    simp only [readStyle, readColor_eq, readFlag_eq]
    exact bind_unlessFaulty (bind_unlessFaulty (bind_unlessFaulty_ok rfl))
  | _ => rfl

/-! ## All styles -/

/-- The entries for styles in a table. -/
def styleEntries (table : Table) : Table :=
  match table.get? "styles".toList with
  | some (.table entries) => entries
  | _ => []

/-- What is wrong with an entry for a style: its name, then its value. -/
def entryFaults (entry : Text × Value) : List Fault :=
  ifMissing (.unknownTokenType entry.1) (TokenType.ofName? entry.1) ++
    valueFaults entry.1 entry.2

/-- What is wrong with the styles of a table, one entry after the other. -/
def stylesFaults (table : Table) : List Fault :=
  match table.get? "styles".toList with
  | none => []
  | some (.table entries) => entries.flatMap entryFaults
  | some _ => [.stylesNotTable]

/-- The styles of a table: that of a type comes from the last entry that names the type, whatever
the case of its letters, and differs from the default style of the type in what the entry gives. -/
def declaredStyles (table : Table) : StyleMap := fun type =>
  ((styleEntries table).filter fun entry =>
      type.name.toList = Unicode.lowercase entry.1).getLast?.map
    fun entry => declaredStyle type.defaultStyle entry.2

/-- The style of a type comes from the last entry that names it. -/
theorem declaredStyles_eq_some_iff {table : Table} {type : TokenType} {style : Style} :
    declaredStyles table type = some style ↔ ∃ before entry after,
      styleEntries table = before ++ entry :: after ∧
      type.name.toList = Unicode.lowercase entry.1 ∧
      (∀ other ∈ after, type.name.toList ≠ Unicode.lowercase other.1) ∧
      declaredStyle type.defaultStyle entry.2 = style := by
  unfold declaredStyles
  rw [Option.map_eq_some_iff]
  constructor
  · rintro ⟨entry, hlast, hstyle⟩
    obtain ⟨earlier, hfilter⟩ := List.getLast?_eq_some_iff.mp hlast
    obtain ⟨front, rest, hentries, -, hrest⟩ := List.filter_eq_append_iff.mp hfilter
    obtain ⟨middle, after, rfl, -, hentry, hafter⟩ := List.filter_eq_cons_iff.mp hrest
    refine ⟨front ++ middle, entry, after, ?_, of_decide_eq_true hentry, ?_, hstyle⟩
    · rw [hentries, List.append_assoc]
    · exact fun other hother hname =>
        List.filter_eq_nil_iff.mp hafter other hother (decide_eq_true hname)
  · rintro ⟨before, entry, after, hentries, hentry, hafter, hstyle⟩
    refine ⟨entry, ?_, hstyle⟩
    have hnone : (after.filter fun other =>
        type.name.toList = Unicode.lowercase other.1) = [] :=
      List.filter_eq_nil_iff.mpr fun other hother hname =>
        hafter other hother (of_decide_eq_true hname)
    rw [hentries, List.filter_append, List.filter_cons_of_pos (by simpa using hentry), hnone,
      List.getLast?_concat]

/-- The styles with one more entry, if it names a type. -/
def putEntry (styles : StyleMap) (entry : Text × Value) : StyleMap :=
  match TokenType.ofName? entry.1 with
  | some type => styles.insert type (declaredStyle type.defaultStyle entry.2)
  | none => styles

theorem addStyle_eq (styles : StyleMap) (entry : Text × Value) :
    addStyle styles entry = unlessFaulty (entryFaults entry) (putEntry styles entry) := by
  obtain ⟨name, value⟩ := entry
  dsimp only [addStyle, entryFaults, putEntry]
  cases TokenType.ofName? name with
  | none => rfl
  | some type =>
    rw [orFault_eq _ _ type]
    refine bind_unlessFaulty ?_
    rw [Option.getD_some, readStyle_eq]
    exact bind_unlessFaulty_ok rfl

theorem foldlM_addStyle_eq (entries : Table) (styles : StyleMap) :
    entries.foldlM addStyle styles =
      unlessFaulty (entries.flatMap entryFaults) (entries.foldl putEntry styles) := by
  induction entries generalizing styles with
  | nil => rfl
  | cons entry entries ih =>
    rw [List.foldlM_cons, addStyle_eq, List.flatMap_cons, List.foldl_cons]
    exact bind_unlessFaulty (ih _)

/-- An entry changes the style of the type that it names, and of no other. -/
theorem putEntry_apply (styles : StyleMap) (entry : Text × Value) (type : TokenType) :
    putEntry styles entry type =
      if type.name.toList = Unicode.lowercase entry.1 then
        some (declaredStyle type.defaultStyle entry.2)
      else styles type := by
  simp only [← TokenType.ofName?_eq_some_iff, putEntry]
  cases TokenType.ofName? entry.1 with
  | none => rfl
  | some other =>
    by_cases hother : type = other
    · simp [StyleMap.insert, hother]
    · simp [StyleMap.insert, hother, Ne.symm hother]

/-- Of the entries for a type the last one counts. -/
theorem foldl_putEntry_apply (entries : Table) (styles : StyleMap) (type : TokenType) :
    entries.foldl putEntry styles type =
      ((entries.filter fun entry => type.name.toList = Unicode.lowercase entry.1).getLast?.map
        fun entry => declaredStyle type.defaultStyle entry.2).or (styles type) := by
  induction entries generalizing styles with
  | nil => rfl
  | cons entry entries ih =>
    rw [List.foldl_cons, ih, putEntry_apply]
    by_cases hname : type.name.toList = Unicode.lowercase entry.1
    · rw [if_pos hname, List.filter_cons_of_pos (by simpa using hname), List.getLast?_cons]
      cases (entries.filter fun entry =>
        type.name.toList = Unicode.lowercase entry.1).getLast? <;> rfl
    · rw [if_neg hname, List.filter_cons_of_neg (by simpa using hname)]

theorem readStyles_eq (table : Table) :
    readStyles table = unlessFaulty (stylesFaults table) (declaredStyles table) := by
  unfold readStyles stylesFaults declaredStyles styleEntries
  cases table.get? "styles".toList with
  | none => rfl
  | some value =>
    cases value with
    | table entries =>
      refine (foldlM_addStyle_eq entries .empty).trans (congrArg _ (funext fun type => ?_))
      rw [foldl_putEntry_apply]
      exact Option.or_none
    | _ => rfl

/-! ## All settings -/

/-- Everything that is wrong with a table: with its markup, its indentation, then its styles. -/
def faults (table : Table) : List Fault :=
  markupFaults table ++ (indentFaults table ++ stylesFaults table)

/-- The settings that a table declares. -/
def declared (table : Table) : Config where
  markup := declaredMarkup table
  indent := declaredIndent table
  styles := declaredStyles table

/-- **A table is refused for the first of its faults**, and otherwise stands for the settings that
it declares. -/
theorem ofTable_eq (table : Table) :
    ofTable table = unlessFaulty (faults table) (declared table) := by
  simp only [ofTable, readMarkup_eq, readIndent_eq, readStyles_eq]
  exact bind_unlessFaulty (bind_unlessFaulty (bind_unlessFaulty_ok rfl))

/-! ## What does not count -/

/-- The entries of a table whose keys are among some keys. -/
def onlyKeys (keys : List String) (table : Table) : Table :=
  table.filter fun entry => keys.any (·.toList = entry.1)

/-- A style without the fields that styles do not have. -/
def knownFields : Value → Value
  | .table fields => .table (onlyKeys ["color", "bold", "italic"] fields)
  | value => value

/-- Styles of types, each without the fields that styles do not have. -/
def knownStyles : Value → Value
  | .table entries => .table (entries.map fun entry => (entry.1, knownFields entry.2))
  | value => value

/-- A table without the keys and fields that settings do not have. -/
def known (table : Table) : Table :=
  (onlyKeys ["markup", "indent", "styles"] table).map fun entry =>
    (entry.1, if entry.1 = "styles".toList then knownStyles entry.2 else entry.2)

theorem get?_onlyKeys {keys : List String} {key : String} (hkey : key ∈ keys) (table : Table) :
    (onlyKeys keys table).get? key.toList = table.get? key.toList := by
  have hkeys : keys.any (·.toList = key.toList) := by
    simpa using ⟨key, hkey, rfl⟩
  unfold Table.get? onlyKeys
  induction table with
  | nil => rfl
  | cons entry table ih =>
    obtain ⟨other, value⟩ := entry
    by_cases heq : key.toList = other
    · subst heq
      rw [List.filter_cons_of_pos (by simpa using hkeys), List.lookup_cons_self,
        List.lookup_cons_self]
    · have hne : (key.toList == other) = false := beq_eq_false_iff_ne.mpr heq
      rw [List.filter_cons]
      split
      · rw [List.lookup_cons, List.lookup_cons, hne, ih]
      · rw [List.lookup_cons, hne, ih]

theorem get?_map (change : Text → Value → Value) (table : Table) (key : Text) :
    Table.get? (table.map fun entry => (entry.1, change entry.1 entry.2)) key =
      (table.get? key).map (change key) := by
  unfold Table.get?
  induction table with
  | nil => rfl
  | cons entry table ih =>
    rw [List.map_cons, List.lookup_cons, List.lookup_cons, ih]
    by_cases heq : key = entry.1
    · subst heq
      rw [beq_self_eq_true]
      rfl
    · rw [beq_eq_false_iff_ne.mpr heq]

theorem get?_known {key : String} (hkey : key ∈ ["markup", "indent", "styles"]) (table : Table) :
    (known table).get? key.toList = (table.get? key.toList).map
      fun value => if key.toList = "styles".toList then knownStyles value else value := by
  unfold known
  rw [get?_map fun key value => if key = "styles".toList then knownStyles value else value,
    get?_onlyKeys hkey]

/-- Markup and indentation stay as they are. -/
theorem get?_known_of_ne {key : String} (hkey : key ∈ ["markup", "indent", "styles"])
    (hne : key.toList ≠ "styles".toList) (table : Table) :
    (known table).get? key.toList = table.get? key.toList := by
  rw [get?_known hkey]
  simp only [if_neg hne, Option.map_id']

theorem readStyle_knownFields (name : Text) (value : Value) (base : Style) :
    readStyle name (knownFields value) base = readStyle name value base := by
  cases value with
  | table fields =>
    have hcolor : (onlyKeys ["color", "bold", "italic"] fields).get? "color".toList =
        Table.get? fields "color".toList := get?_onlyKeys (by decide) fields
    have hflag : ∀ flag : Flag, (onlyKeys ["color", "bold", "italic"] fields).get?
        flag.name.toList = Table.get? fields flag.name.toList := fun flag =>
      get?_onlyKeys (by cases flag <;> decide) fields
    simp only [knownFields, readStyle, readColor, readFlag, hcolor, hflag]
  | _ => rfl

theorem addStyle_knownFields (styles : StyleMap) (entry : Text × Value) :
    addStyle styles (entry.1, knownFields entry.2) = addStyle styles entry := by
  simp only [addStyle, readStyle_knownFields]

theorem readStyles_known (table : Table) : readStyles (known table) = readStyles table := by
  unfold readStyles
  rw [get?_known (by decide)]
  cases table.get? "styles".toList with
  | none => rfl
  | some value =>
    cases value with
    | table entries =>
      show (entries.map _).foldlM addStyle .empty = entries.foldlM addStyle .empty
      rw [List.foldlM_map]
      simp only [addStyle_knownFields]
    | _ => rfl

/-- **Unknown keys and fields do not count.** -/
theorem ofTable_known (table : Table) : ofTable (known table) = ofTable table := by
  have hmarkup : (known table).get? "markup".toList = table.get? "markup".toList :=
    get?_known_of_ne (by decide) (by decide) table
  have hindent : (known table).get? "indent".toList = table.get? "indent".toList :=
    get?_known_of_ne (by decide) (by decide) table
  simp only [ofTable, readMarkup, readIndent, hmarkup, hindent, readStyles_known]

/-! ## Themes -/

/-- **Each styled type has the tag of its style**, which is the one that the settings give it or
else the default one. -/
theorem tags_theme (config : Config) (colors : ColorOutput) {type : TokenType}
    (htype : type ∈ TokenType.styled) :
    (config.theme colors).tags type =
      Tag.ofStyle config.markup colors ((config.styles type).getD type.defaultStyle) :=
  if_neg (TokenType.mem_styled_iff.mp htype)

/-- **A style for plain text changes no theme**: only the styles of other types count. -/
theorem theme_congr {config other : Config} (hmarkup : config.markup = other.markup)
    (hstyles : ∀ type ∈ TokenType.styled, config.styles type = other.styles type)
    (colors : ColorOutput) : config.theme colors = other.theme colors := by
  have htags : (config.theme colors).tags = (other.theme colors).tags := by
    funext type
    by_cases htype : type = .default
    · subst htype
      rfl
    · have hstyled := TokenType.mem_styled_iff.mpr htype
      rw [tags_theme config colors hstyled, tags_theme other colors hstyled, hmarkup,
        hstyles type hstyled]
  unfold theme Theme.ofStyles at htags ⊢
  rw [Theme.mk.injEq]
  exact ⟨hmarkup, htags⟩

/-! ## Documents -/

/-- The entries for styles ascend by their names. -/
theorem pairwise_styleEntries {table : Table} (h : (Value.table table).Ascending) :
    (styleEntries table).Pairwise (·.1 < ·.1) := by
  unfold styleEntries
  split
  · rename_i entries hstyles
    exact (h.get? hstyles).pairwise
  · exact .nil

/-- **The settings in a document** are what its table declares, however it is decoded into a table
with its keys in order, as documents are here: the markup and the indentation, and for each type the
style of the last entry that names it. The entries are looked at in the order of their names, and
a table with faults is refused for the first of them. Unknown keys and fields do not count. Each
styled type is tagged as its style says, or else its default style, and a style for plain text
changes nothing. -/
theorem parse_eq_declared :
    Toml.decode.Ordered ∧ ∀ decode : Toml.Decoder, decode.Ordered →
      ∀ (text : Text) (table : Table), decode text = .ok table →
        (styleEntries table).Pairwise (·.1 < ·.1) ∧
        parse decode text = unlessFaulty (faults table) (declared table) ∧
        (∀ type style, (declared table).styles type = some style ↔ ∃ before entry after,
          styleEntries table = before ++ entry :: after ∧
          type.name.toList = Unicode.lowercase entry.1 ∧
          (∀ other ∈ after, type.name.toList ≠ Unicode.lowercase other.1) ∧
          declaredStyle type.defaultStyle entry.2 = style) ∧
        (∀ other, known other = known table → ofTable other = parse decode text) ∧
        ∀ config, parse decode text = .ok config → ∀ colors,
          (∀ type ∈ TokenType.styled, (config.theme colors).tags type =
            Tag.ofStyle config.markup colors ((config.styles type).getD type.defaultStyle)) ∧
          ∀ other : Config, config.markup = other.markup →
            (∀ type ∈ TokenType.styled, config.styles type = other.styles type) →
            config.theme colors = other.theme colors := by
  refine ⟨Toml.decode_ordered, fun decode hordered text table h => ?_⟩
  have hparse := parse_of_decode h
  refine ⟨pairwise_styleEntries (hordered h), hparse.trans (ofTable_eq table),
    fun type style => declaredStyles_eq_some_iff, fun other hknown => ?_,
    fun config _ colors => ⟨fun type => tags_theme config colors, ?_⟩⟩
  · rw [hparse, ← ofTable_known other, hknown, ofTable_known]
  · exact fun other hmarkup hstyles => theme_congr hmarkup hstyles colors

/-- A document that names keywords twice. -/
def keywordTwice : Text :=
  "title = 1\nindent = 99\n[styles]\nKEYWORD = '#010203'\nkeyword.italic = true".toList

theorem isSome_parse?_keywordTwice : (Toml.parse? keywordTwice).isSome := by decide +kernel

/-- The later of two styles for keywords counts, and starts from the default style again. -/
theorem parse_keywordTwice : Toml.decode.Ordered ∧
    ∃ table, Toml.decode keywordTwice = .ok table ∧
      (parse Toml.decode keywordTwice).toOption.map (·.styles .keyword) =
        some (some { TokenType.keyword.defaultStyle with italic := true }) := by
  have htable := Toml.decode_eq_ok_iff.mpr (Option.some_get isSome_parse?_keywordTwice).symm
  obtain ⟨hordered, hall⟩ := parse_eq_declared
  refine ⟨hordered, _, htable, ?_⟩
  rw [(hall Toml.decode hordered keywordTwice _ htable).2.1]
  decide +kernel

end Config

end Highlighter
