import Highlighter.Proofs.Invocation

/-!
# Settings of the home directory

Settings can be read in place: each is put among those that hold as soon as it has been read. A
fault then leaves settings of which some are changed and some are not. The settings of the home
directory never show any of that, and with a fault in them every invocation does what it does
without them.

* `Config.apply`: a table put in place, which stops at the first fault and keeps what it has done.
* `Config.outcome`: what comes of changes if they are dropped at a fault.
* `Config.outcome_apply`: a table put in place among the default settings.
* `Environment.run_congr_home`: an invocation sees no more of the home directory than its settings.
* `Config.home_all_or_nothing`: the settings of the home directory, with and without a fault.
-/

namespace Highlighter

open Toml (Table Value)

namespace Config

/-! ## Settings in place -/

/-- Puts the markup of a table in place, if it names one. -/
def applyMarkup (table : Table) : EStateM Fault Config Unit :=
  match table.get? "markup".toList with
  | none => pure ()
  | some value => do
    let name ← MonadExcept.ofExcept (orFault .markupNotString value.string?)
    let markup ← MonadExcept.ofExcept (Markup.parse name)
    modify fun config => { config with markup }

/-- Puts the unit of indentation of a table in place, if it gives one. -/
def applyIndent (table : Table) : EStateM Fault Config Unit :=
  match table.get? "indent".toList with
  | none => pure ()
  | some (.string unit) => modify fun config => { config with indent := unit }
  | some (.integer width) =>
    modify fun config =>
      { config with indent := List.replicate (max 1 (min width 16)).toNat ' ' }
  | some _ => throw .indentNotUnit

/-- Puts one style in place. -/
def applyStyle : Text × Value → EStateM Fault Config Unit
  | (name, value) => do
    let type ← MonadExcept.ofExcept (orFault (.unknownTokenType name) (TokenType.ofName? name))
    let style ← MonadExcept.ofExcept (readStyle name value type.defaultStyle)
    modify fun config => { config with styles := config.styles.insert type style }

/-- Puts the styles of a table in place, if it has some, one after the other. -/
def applyStyles (table : Table) : EStateM Fault Config Unit :=
  match table.get? "styles".toList with
  | none => pure ()
  | some value => do
    let entries ← MonadExcept.ofExcept (orFault .stylesNotTable value.table?)
    entries.forM applyStyle

/-- Puts all settings of a table in place. -/
def apply (table : Table) : EStateM Fault Config Unit := do
  applyMarkup table
  applyIndent table
  applyStyles table

/-! ## What comes of it -/

/-- The settings after changes to them, or the fault that the changes stop at. What they have done
before it is dropped. -/
def outcome (change : EStateM Fault Config Unit) (config : Config) : Except Fault Config :=
  match change config with
  | .ok () changed => .ok changed
  | .error fault _ => .error fault

section Outcome

variable {config : Config}

theorem outcome_bind (first second : EStateM Fault Config Unit) :
    outcome (do first; second) config = outcome first config >>= outcome second := by
  unfold outcome
  simp only [bind, EStateM.bind]
  cases first config <;> rfl

theorem outcome_ofExcept_bind {α : Type} (value : Except Fault α)
    (next : α → EStateM Fault Config Unit) :
    outcome (MonadExcept.ofExcept value >>= next) config =
      value >>= fun a => outcome (next a) config := by
  cases value <;> rfl

theorem outcome_applyMarkup (table : Table) (h : config.markup = default.markup) :
    outcome (applyMarkup table) config =
      do return { config with markup := ← readMarkup table } := by
  unfold applyMarkup readMarkup
  cases table.get? "markup".toList with
  | none =>
    rw [← h]
    rfl
  | some value =>
    simp only [outcome_ofExcept_bind, bind_assoc]
    rfl

theorem outcome_applyIndent (table : Table) (h : config.indent = default.indent) :
    outcome (applyIndent table) config =
      do return { config with indent := ← readIndent table } := by
  unfold applyIndent readIndent
  cases table.get? "indent".toList with
  | none =>
    rw [← h]
    rfl
  | some value => cases value <;> rfl

theorem outcome_forM_applyStyle (entries : Table) :
    outcome (entries.forM applyStyle) config =
      do return { config with styles := ← entries.foldlM addStyle config.styles } := by
  induction entries generalizing config with
  | nil => rfl
  | cons entry entries ih =>
    have hentry : outcome (applyStyle entry) config =
        do return { config with styles := ← addStyle config.styles entry } := by
      unfold applyStyle addStyle
      simp only [outcome_ofExcept_bind, bind_assoc]
      rfl
    -- The styles put in place by one entry are those that the rest of the fold starts from.
    rw [List.foldlM_cons]
    refine (outcome_bind (applyStyle entry) (entries.forM applyStyle)).trans ?_
    rw [hentry]
    simp only [bind_assoc, pure_bind, ih]

theorem outcome_applyStyles (table : Table) (h : config.styles = default.styles) :
    outcome (applyStyles table) config =
      do return { config with styles := ← readStyles table } := by
  unfold applyStyles readStyles
  cases table.get? "styles".toList with
  | none =>
    rw [← h]
    rfl
  | some value =>
    simp only [outcome_ofExcept_bind, outcome_forM_applyStyle, h, bind_assoc]
    rfl

end Outcome

/-- **Settings in place** are the settings that the table stands for, or stop at its first fault. -/
theorem outcome_apply (table : Table) : outcome (apply table) default = ofTable table := by
  unfold apply ofTable
  -- Each part starts from the default of what it changes, since no other part changes that.
  rw [outcome_bind, outcome_applyMarkup table rfl]
  simp only [bind_assoc, pure_bind, outcome_bind, outcome_applyIndent, outcome_applyStyles]

/-- The settings in a file are those of its table, put in place among the default settings. -/
theorem ofFile_eq_outcome {decode : Toml.Decoder} {text : Text} {table : Table}
    (h : decode text = .ok table) :
    ofFile decode (.ok text.utf8Encode) = outcome (apply table) default := by
  have hfile : ofFile decode (.ok text.utf8Encode) = parse decode text := by
    unfold ofFile
    rw [readText_eq_ok_iff.mpr rfl]
    rfl
  rw [hfile, parse_of_decode h, outcome_apply]

/-! ## The home directory -/

theorem home_some (decode : Toml.Decoder) (contents : Contents) :
    home decode (some contents) = (ofFile decode contents).toOption.getD default := rfl

/-- A home directory without the file holds no settings. -/
theorem home_notFound (decode : Toml.Decoder) :
    home decode (some (.error .notFound)) = default := rfl

end Config

/-- An invocation sees no more of the home directory than the settings in it. -/
theorem Environment.run_congr_home (environment : Environment) {home other : Option Contents}
    (h : Config.home environment.decode home = Config.home environment.decode other)
    (arguments : List String) :
    { environment with home }.run arguments = { environment with home := other }.run arguments := by
  have hconfig (options : Options) : { environment with home }.config options =
      { environment with home := other }.config options := by
    unfold config
    cases options.config with
    | none => simp only [h]
    | some path => rfl
  unfold run answer
  simp only [hconfig]
  rfl

/-- **All or nothing.** The settings of the home directory are those in its file, if it holds some.
If anything is wrong with the file, they are the default ones, however many settings stood in front
of the fault: those that have been put in place by then are dropped. Every invocation then does
what it does without the file, and without a home directory, if all else around it is the same. -/
theorem Config.home_all_or_nothing (decode : Toml.Decoder) (contents : Contents) :
    (∀ config, ofFile decode contents = .ok config → home decode (some contents) = config) ∧
    (∀ fault, ofFile decode contents = .error fault → home decode (some contents) = default ∧
      ∀ (environment : Environment) (arguments : List String),
        { environment with decode, home := some contents }.run arguments =
          { environment with decode, home := some (.error .notFound) }.run arguments ∧
        { environment with decode, home := some contents }.run arguments =
          { environment with decode, home := none }.run arguments) ∧
    ∀ (text : Text) (table : Table), contents = .ok text.utf8Encode →
      decode text = .ok table →
      (∀ config, apply table default = .ok () config → ofFile decode contents = .ok config) ∧
      ∀ fault left, apply table default = .error fault left →
        ofFile decode contents = .error fault := by
  refine ⟨fun config hconfig => ?_, fun fault hfault => ?_, ?_⟩
  · rw [home_some, hconfig]
    rfl
  · have hhome : home decode (some contents) = default := by
      rw [home_some, hfault]
      rfl
    exact ⟨hhome, fun environment arguments =>
      ⟨Environment.run_congr_home { environment with decode }
          (hhome.trans (home_notFound decode).symm) arguments,
        Environment.run_congr_home { environment with decode } hhome arguments⟩⟩
  · rintro text table rfl htable
    rw [ofFile_eq_outcome htable]
    unfold outcome
    refine ⟨fun config hconfig => ?_, fun fault left hfault => ?_⟩
    · rw [hconfig]
    · rw [hfault]

namespace Config

/-- A document with a fault behind a markup, a unit of indentation and a style. -/
def faultyHome : Text :=
  "markup = 'ansi'\nindent = 8\n[styles]\nchar = '#010203'\nkeyword = 1".toList

theorem isSome_parse?_faultyHome : (Toml.parse? faultyHome).isSome := by decide +kernel

/-- What stood in front of the fault is put in place, and does not hold all the same. -/
theorem home_faultyHome : ∃ table left, Toml.decode faultyHome = .ok table ∧
    apply table default = .error (.styleNotStyle "keyword".toList) left ∧
    left.markup = .ansi ∧ left.styles .char = some (.colored 1 2 3) ∧
    home Toml.decode (some (.ok faultyHome.utf8Encode)) = default ∧
    ∀ (environment : Environment) (arguments : List String),
      { environment with
          decode := Toml.decode, home := some (.ok faultyHome.utf8Encode) }.run arguments =
        { environment with decode := Toml.decode, home := none }.run arguments := by
  have htable := Toml.decode_eq_ok_iff.mpr (Option.some_get isSome_parse?_faultyHome).symm
  have hleft : (match apply ((Toml.parse? faultyHome).get isSome_parse?_faultyHome) default with
      | .ok _ _ => none
      | .error fault left => some (fault, left.markup, left.styles .char)) =
        some (.styleNotStyle "keyword".toList, .ansi, some (.colored 1 2 3)) := by
    decide +kernel
  split at hleft
  · cases hleft
  · rename_i fault left happly
    obtain ⟨rfl, hmarkup, hstyle⟩ : fault = .styleNotStyle "keyword".toList ∧ left.markup = .ansi ∧
        left.styles .char = some (.colored 1 2 3) := by simpa using hleft
    have hall := home_all_or_nothing Toml.decode (.ok faultyHome.utf8Encode)
    have hfault := (hall.2.2 faultyHome _ rfl htable).2 _ left happly
    obtain ⟨hhome, hrun⟩ := hall.2.1 _ hfault
    exact ⟨_, left, htable, happly, hmarkup, hstyle, hhome,
      fun environment arguments => (hrun environment arguments).2⟩

end Config

end Highlighter
