import Mathlib.Tactic.SplitIfs
import Highlighter.CommandLine.Options

/-!
# Lists of arguments

An argument list is a row of phrases: options, with their values where they take one, and at most
one file. Where a list is no such row, the first place at which it fails says what is wrong.

* `Phrase`, `Phrase.words`: what can be said with arguments, and how it is written.
* `Options.Reads`: the options that a row of phrases stands for.
* `Blocked`: what is wrong with a list whose first words are no phrase that may stand there.
* `parse_eq_ok_iff`, `parse_eq_error_iff`: the options of a list, and its fault.
-/

namespace Highlighter

/-! ## Forms of argument -/

/-- The names of the options. -/
def optionNames : List String :=
  ["--ansi", "--rich-text", "--tokens", "--strip", "--token-at", "--config"]

/-- What each form of argument says of the word. -/
theorem Argument.of_ofString (word : String) :
    match ofString word with
    | ansi => word = "--ansi"
    | richText => word = "--rich-text"
    | tokens => word = "--tokens"
    | strip => word = "--strip"
    | tokenAt => word = "--token-at"
    | config => word = "--config"
    | unknown => word.toList.head? = some '-' ∧ word ∉ optionNames
    | file => word.toList.head? ≠ some '-' := by
  unfold ofString
  split_ifs <;> simp_all [optionNames]

theorem Argument.ofString_of_plain {word : String} (h : word.toList.head? ≠ some '-') :
    ofString word = file := by
  unfold ofString
  split_ifs <;> simp_all

theorem Argument.ofString_of_unknown {word : String} (h : word.toList.head? = some '-')
    (hnew : word ∉ optionNames) : ofString word = unknown := by
  unfold ofString
  split_ifs <;> simp_all [optionNames]

/-! ## Phrases -/

/-- Arguments that belong together: an option, with its value if it takes one, or a file. -/
inductive Phrase where
  | markup (choice : Markup)
  | tokens
  | strip
  | tokenAt (value : String) (caret : Nat) (valid : Options.caret? value.toList = some caret)
  | config (path : String)
  | file (name : String) (plain : name.toList.head? ≠ some '-')

namespace Phrase

/-- The arguments that a phrase consists of. -/
def words : Phrase → List String
  | markup .ansi => ["--ansi"]
  | markup .richText => ["--rich-text"]
  | tokens => ["--tokens"]
  | strip => ["--strip"]
  | tokenAt value .. => ["--token-at", value]
  | config path => ["--config", path]
  | file name _ => [name]

/-- Whether a phrase names a file. -/
def isFile : Phrase → Bool
  | file .. => true
  | _ => false

/-- The options with what a phrase says. What has been said of the same thing before is dropped. -/
def apply (options : Options) : Phrase → Options
  | markup choice => { options with markup := some choice }
  | tokens => { options with tokens := true }
  | strip => { options with strip := true }
  | tokenAt _ caret _ => { options with caret := some caret }
  | config path => { options with config := some path }
  | file name _ => { options with file := some name }

theorem length_words_pos (phrase : Phrase) : 0 < phrase.words.length := by
  cases phrase with
  | markup choice => cases choice <;> decide
  | _ => exact Nat.succ_pos _

theorem isSome_file_apply (options : Options) (phrase : Phrase) :
    (phrase.apply options).file.isSome = (options.file.isSome || phrase.isFile) := by
  cases phrase <;> simp [apply, isFile]

end Phrase

/-- What is wrong with arguments that begin with no phrase, or with one that names a file where there
has been a file before. -/
inductive Blocked (hasFile : Bool) : List String → Fault → Prop where
  | caretMissing : Blocked hasFile ["--token-at"] .caretMissing
  | caretInvalid {value : String} (rest : List String) :
      Options.caret? value.toList = none →
      Blocked hasFile ("--token-at" :: value :: rest) (.caretInvalid value.toList)
  | configPathMissing : Blocked hasFile ["--config"] .configPathMissing
  | unknownOption {word : String} (rest : List String) :
      word.toList.head? = some '-' → word ∉ optionNames →
      Blocked hasFile (word :: rest) (.unknownOption word.toList)
  | extraFile {name : String} (rest : List String) :
      hasFile → name.toList.head? ≠ some '-' → Blocked hasFile (name :: rest) .extraFile

/-! ## The first words -/

namespace Options

variable {options : Options} {arguments : List String} {fault : Fault}

/-- A phrase at the start of the arguments is taken in. -/
theorem add_words {phrase : Phrase} (h : phrase.isFile → options.file.isSome = false)
    (rest : List String) :
    options.add (phrase.words ++ rest) = (phrase.apply options).add rest := by
  cases phrase with
  | markup choice => cases choice <;> rfl
  | tokens | strip | config path => rfl
  | tokenAt value caret valid =>
    have hform : Argument.ofString "--token-at" = .tokenAt := rfl
    show options.add ("--token-at" :: value :: rest) = _
    rw [add.eq_def options]
    simp only [hform, valid]
    rfl
  | file name plain =>
    show options.add (name :: rest) = _
    rw [add.eq_def options]
    simp only [Argument.ofString_of_plain plain, h rfl, Bool.false_eq_true, if_false]
    rfl

/-- Arguments that are blocked are refused with the fault that blocks them. -/
theorem add_of_blocked (h : Blocked options.file.isSome arguments fault) :
    options.add arguments = .error fault := by
  cases h with
  | caretMissing | configPathMissing => rfl
  | caretInvalid rest hvalue =>
    have hform : Argument.ofString "--token-at" = .tokenAt := rfl
    unfold add
    simp only [hform, hvalue]
  | unknownOption rest hdash hnew =>
    unfold add
    simp only [Argument.ofString_of_unknown hdash hnew]
  | extraFile rest hfile hplain =>
    unfold add
    simp only [Argument.ofString_of_plain hplain, hfile, if_true]

end Options

/-- Arguments begin with a phrase that may stand there, or they are blocked. -/
theorem exists_words_or_blocked (hasFile : Bool) (first : String) (arguments : List String) :
    (∃ (phrase : Phrase) (rest : List String), first :: arguments = phrase.words ++ rest ∧
        (phrase.isFile → hasFile = false)) ∨
      ∃ fault, Blocked hasFile (first :: arguments) fault := by
  have hfirst := Argument.of_ofString first
  cases hform : Argument.ofString first <;> rw [hform] at hfirst <;> dsimp only at hfirst
  case ansi =>
    exact .inl ⟨.markup .ansi, arguments, by rw [hfirst]; rfl, nofun⟩
  case richText =>
    exact .inl ⟨.markup .richText, arguments, by rw [hfirst]; rfl, nofun⟩
  case tokens =>
    exact .inl ⟨.tokens, arguments, by rw [hfirst]; rfl, nofun⟩
  case strip =>
    exact .inl ⟨.strip, arguments, by rw [hfirst]; rfl, nofun⟩
  case tokenAt =>
    subst hfirst
    rcases arguments with _ | ⟨value, rest⟩
    · exact .inr ⟨_, .caretMissing⟩
    · cases hvalue : Options.caret? value.toList with
      | none => exact .inr ⟨_, .caretInvalid rest hvalue⟩
      | some caret => exact .inl ⟨.tokenAt value caret hvalue, rest, rfl, nofun⟩
  case config =>
    subst hfirst
    rcases arguments with _ | ⟨path, rest⟩
    · exact .inr ⟨_, .configPathMissing⟩
    · exact .inl ⟨.config path, rest, rfl, nofun⟩
  case unknown => exact .inr ⟨_, .unknownOption arguments hfirst.1 hfirst.2⟩
  case file =>
    cases hasFile with
    | false => exact .inl ⟨.file first hfirst, arguments, rfl, fun _ => rfl⟩
    | true => exact .inr ⟨_, .extraFile arguments rfl hfirst⟩

/-! ## All arguments -/

/-- The arguments of a row of phrases. -/
def written (phrases : List Phrase) : List String := phrases.flatMap Phrase.words

theorem written_cons (phrase : Phrase) (phrases : List Phrase) :
    written (phrase :: phrases) = phrase.words ++ written phrases := rfl

/-- A row names no second file if its first phrase names none, nor do the others behind it. -/
theorem countP_isFile_cons (hasFile : Bool) (phrase : Phrase) (phrases : List Phrase) :
    hasFile.toNat + (phrase :: phrases).countP Phrase.isFile ≤ 1 ↔
      (phrase.isFile → hasFile = false) ∧
        (hasFile || phrase.isFile).toNat + phrases.countP Phrase.isFile ≤ 1 := by
  rw [List.countP_cons]
  generalize phrases.countP Phrase.isFile = count
  cases hasFile <;> cases phrase.isFile <;>
    simp only [Bool.toNat_false, Bool.toNat_true, Bool.false_or, Bool.true_or] <;> grind

/-- Arguments are a row of phrases that names no second file, and what blocks the rest of them if
there is a rest. -/
theorem exists_written (hasFile : Bool) (arguments : List String) :
    ∃ phrases rest, arguments = written phrases ++ rest ∧
      hasFile.toNat + phrases.countP Phrase.isFile ≤ 1 ∧
      (rest = [] ∨ ∃ fault, Blocked (hasFile || phrases.any Phrase.isFile) rest fault) := by
  induction hlen : arguments.length using Nat.strongRecOn generalizing hasFile arguments with
  | ind len ih =>
    subst hlen
    rcases arguments with _ | ⟨first, arguments⟩
    · exact ⟨[], [], rfl, hasFile.toNat_le, .inl rfl⟩
    rcases exists_words_or_blocked hasFile first arguments with
      ⟨phrase, rest, hwords, hfile⟩ | hblocked
    · have hlt : rest.length < (first :: arguments).length := by
        rw [hwords, List.length_append]
        exact Nat.lt_add_of_pos_left phrase.length_words_pos
      obtain ⟨phrases, after, rfl, hcount, hafter⟩ := ih _ hlt (hasFile || phrase.isFile) rest rfl
      refine ⟨phrase :: phrases, after, ?_, ?_, ?_⟩
      · rw [hwords, written_cons, List.append_assoc]
      · exact (countP_isFile_cons hasFile phrase phrases).mpr ⟨hfile, hcount⟩
      · rwa [List.any_cons, ← Bool.or_assoc]
    · refine ⟨[], first :: arguments, rfl, hasFile.toNat_le, .inr ?_⟩
      rwa [List.any_nil, Bool.or_false]

namespace Options

variable {options : Options} {arguments : List String} {fault : Fault}

/-- The options with what the phrases of a row say, one after the other. -/
def after (options : Options) (phrases : List Phrase) : Options :=
  phrases.foldl Phrase.apply options

theorem after_cons (options : Options) (phrase : Phrase) (phrases : List Phrase) :
    options.after (phrase :: phrases) = (phrase.apply options).after phrases := rfl

theorem isSome_file_after (options : Options) (phrases : List Phrase) :
    (options.after phrases).file.isSome =
      (options.file.isSome || phrases.any Phrase.isFile) := by
  induction phrases generalizing options with
  | nil => exact (Bool.or_false _).symm
  | cons phrase phrases ih =>
    rw [after_cons, ih, Phrase.isSome_file_apply, List.any_cons, Bool.or_assoc]

/-- A row of phrases at the start of the arguments is taken in, one phrase after the other. -/
theorem add_written {phrases : List Phrase}
    (h : options.file.isSome.toNat + phrases.countP Phrase.isFile ≤ 1) (rest : List String) :
    options.add (written phrases ++ rest) = (options.after phrases).add rest := by
  induction phrases generalizing options with
  | nil => rfl
  | cons phrase phrases ih =>
    obtain ⟨hphrase, hphrases⟩ := (countP_isFile_cons _ phrase phrases).mp h
    rw [← Phrase.isSome_file_apply] at hphrases
    rw [written_cons, List.append_assoc, add_words hphrase, ih hphrases]
    rfl

/-- The arguments are a row of phrases that names at most one file, and the options are what it
says. -/
def Reads (arguments : List String) (options : Options) : Prop :=
  ∃ phrases, arguments = written phrases ∧ phrases.countP Phrase.isFile ≤ 1 ∧
    options = Options.none.after phrases

/-- A row of phrases that names at most one file stands at the start of the arguments, and the rest
of them is blocked. -/
def Refuses (arguments : List String) (fault : Fault) : Prop :=
  ∃ phrases rest, arguments = written phrases ++ rest ∧ phrases.countP Phrase.isFile ≤ 1 ∧
    Blocked (phrases.any Phrase.isFile) rest fault

theorem parse_written {phrases : List Phrase} (h : phrases.countP Phrase.isFile ≤ 1)
    (rest : List String) :
    parse (written phrases ++ rest) = (Options.none.after phrases).add rest :=
  add_written (by rwa [show Options.none.file.isSome.toNat = 0 from rfl, Nat.zero_add]) rest

theorem Reads.parse_eq (h : Reads arguments options) : parse arguments = .ok options := by
  obtain ⟨phrases, rfl, hcount, rfl⟩ := h
  have hparse := parse_written hcount []
  rwa [List.append_nil] at hparse

theorem Refuses.parse_eq (h : Refuses arguments fault) : parse arguments = .error fault := by
  obtain ⟨phrases, rest, rfl, hcount, hblocked⟩ := h
  rw [parse_written hcount]
  refine add_of_blocked ?_
  rwa [isSome_file_after]

/-- Arguments are understood, or there is a first place at which they are not. -/
theorem reads_or_refuses (arguments : List String) :
    (∃ options, Reads arguments options) ∨ ∃ fault, Refuses arguments fault := by
  obtain ⟨phrases, rest, rfl, hcount, rfl | ⟨fault, hblocked⟩⟩ := exists_written false arguments
  · exact .inl ⟨_, phrases, List.append_nil _, by simpa using hcount, rfl⟩
  · exact .inr ⟨fault, phrases, rest, rfl, by simpa using hcount, by simpa using hblocked⟩

/-- **Arguments that are understood** are the rows of phrases with at most one file. -/
theorem parse_eq_ok_iff : parse arguments = .ok options ↔ Reads arguments options := by
  refine ⟨fun h => ?_, Reads.parse_eq⟩
  rcases reads_or_refuses arguments with ⟨other, hreads⟩ | ⟨fault, hrefuses⟩
  · obtain rfl := Except.ok.inj (h.symm.trans hreads.parse_eq)
    exact hreads
  · cases h.symm.trans hrefuses.parse_eq

/-- **Arguments are refused** for what is wrong at the first place that no phrase can be read. -/
theorem parse_eq_error_iff : parse arguments = .error fault ↔ Refuses arguments fault := by
  refine ⟨fun h => ?_, Refuses.parse_eq⟩
  rcases reads_or_refuses arguments with ⟨options, hreads⟩ | ⟨other, hrefuses⟩
  · cases h.symm.trans hreads.parse_eq
  · obtain rfl := Except.error.inj (h.symm.trans hrefuses.parse_eq)
    exact hrefuses

end Options

end Highlighter
