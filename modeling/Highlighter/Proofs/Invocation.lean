import Highlighter.Proofs.Arguments
import Highlighter.Proofs.Contents
import Highlighter.Proofs.Building
import Highlighter.Toml.Document

/-!
# How invocations end

An invocation goes well if its arguments, its settings and its source text are in order, and tells
what is wrong with the first of them that is not.

* `Environment.SettingsDecode`, `Environment.sourceContents`: what is read and needs to be in order.
* `Environment.FirstFault`, `FirstFault.unique`: the first thing that is wrong with an invocation.
* `attempt_eq_ok_iff`, `attempt_eq_error_iff`: what an invocation gives that asks for no fixed text.
* `run_all_or_nothing`: an invocation gives an output or a message, and when it gives which.
-/

namespace Highlighter

variable {fault : Fault}

/-! ## What an invocation finds -/

namespace Environment

variable {environment : Environment} {options : Options}

/-- The contents that the source text is read from. -/
def sourceContents (environment : Environment) (options : Options) : Contents :=
  options.file.elim environment.input environment.file

theorem source_eq (environment : Environment) (options : Options) :
    environment.source options = readText (environment.sourceContents options) := by
  unfold source sourceContents
  cases options.file <;> rfl

/-- If the options name a file with settings, then it holds some. -/
def SettingsDecode (environment : Environment) (options : Options) : Prop :=
  ∀ path, options.config = some path → ∃ (text : Text) (config : Config),
    environment.file path = .ok text.utf8Encode ∧
      Config.parse environment.decode text = .ok config

theorem config_of_none (environment : Environment) (h : options.config = none) :
    ∃ config, environment.config options = .ok config := by
  unfold config
  rw [h]
  exact ⟨_, rfl⟩

theorem config_of_some {path : String} (h : options.config = some path) :
    environment.config options =
      (Config.ofFile environment.decode (environment.file path)).map fun config =>
        { config with markup := options.markup.getD config.markup } := by
  unfold config
  rw [h]
  dsimp only
  cases Config.ofFile environment.decode (environment.file path) <;> rfl

/-- There are settings unless the file that the options name holds none. -/
theorem exists_config_iff :
    (∃ config, environment.config options = .ok config) ↔ environment.SettingsDecode options := by
  cases hpath : options.config with
  | none =>
    refine ⟨fun _ path hsome => ?_, fun _ => config_of_none environment hpath⟩
    cases hpath.symm.trans hsome
  | some path =>
    have hdecode : environment.SettingsDecode options ↔
        ∃ config, Config.ofFile environment.decode (environment.file path) = .ok config := by
      simp only [SettingsDecode, hpath, Option.some.injEq, forall_eq', Config.ofFile_eq_ok_iff]
      exact exists_comm
    rw [config_of_some hpath, hdecode]
    cases Config.ofFile environment.decode (environment.file path) with
    | error fault => exact ⟨nofun, nofun⟩
    | ok config => exact ⟨fun _ => ⟨config, rfl⟩, fun _ => ⟨_, rfl⟩⟩

theorem config_eq_error_iff :
    environment.config options = .error fault ↔
      ∃ path, options.config = some path ∧
        Unusable environment.decode (environment.file path) fault := by
  cases hpath : options.config with
  | none =>
    obtain ⟨config, hconfig⟩ := config_of_none environment hpath
    rw [hconfig]
    exact ⟨nofun, nofun⟩
  | some path =>
    simp only [config_of_some hpath, Option.some.injEq, exists_eq_left',
      ← Config.ofFile_eq_error_iff]
    cases Config.ofFile environment.decode (environment.file path) with
    | error other => exact ⟨id, id⟩
    | ok config => exact ⟨nofun, nofun⟩

/-! ## Answers -/

/-- **What is printed** is the answer for the settings and the source text that were found. -/
theorem answer_eq_ok_iff {output : Text} :
    environment.answer options = .ok output ↔
      ∃ (config : Config) (source : Text), environment.config options = .ok config ∧
        environment.sourceContents options = .ok source.utf8Encode ∧
        options.output (config.theme environment.colors) source = output := by
  unfold answer
  simp only [bind_eq_ok_iff, source_eq, readText_eq_ok_iff, pure, Except.pure, Except.ok.injEq,
    exists_and_left]

/-- **What is told** is wrong with the settings, or with the source text if they are in order. -/
theorem answer_eq_error_iff :
    environment.answer options = .error fault ↔
      (∃ path, options.config = some path ∧
          Unusable environment.decode (environment.file path) fault) ∨
        (environment.SettingsDecode options ∧
          Unreadable (environment.sourceContents options) fault) := by
  rw [← config_eq_error_iff, ← exists_config_iff, ← readText_eq_error_iff, ← source_eq]
  unfold answer
  simp only [bind_eq_error_iff, pure, Except.pure, reduceCtorEq, and_false, exists_false, or_false,
    exists_and_right]

end Environment

/-! ## Invocations -/

/-- Whether the first argument asks for the help or version text. -/
def AsksForText (arguments : List String) : Prop :=
  ∃ word ∈ ["--help", "-h", "--version", "-V"], arguments.head? = some word

instance (arguments : List String) : Decidable (AsksForText arguments) :=
  inferInstanceAs (Decidable (∃ word ∈ ["--help", "-h", "--version", "-V"], _))

/-- Arguments that ask for a text are not understood as options. -/
theorem Options.Reads.not_asksForText {arguments : List String} {options : Options}
    (h : Reads arguments options) : ¬ AsksForText arguments := by
  have hnew : ∀ word ∈ ["--help", "-h", "--version", "-V"],
      word.toList.head? = some '-' ∧ word ∉ optionNames := by
    decide
  rintro ⟨word, hword, hhead⟩
  rcases arguments with _ | ⟨first, rest⟩
  · cases hhead
  obtain rfl := Option.some.inj hhead
  have hrefuses : Refuses (first :: rest) (.unknownOption first.toList) :=
    ⟨[], first :: rest, rfl, Nat.zero_le _,
      .unknownOption rest (hnew first hword).1 (hnew first hword).2⟩
  cases h.parse_eq.symm.trans hrefuses.parse_eq

/-- An invocation that failed has a message. -/
theorem Outcome.exists_failure_eq (fault : Fault) :
    ∃ message, failure fault = ⟨1, [], "Error: ".toList ++ message⟩ :=
  ⟨fault.message ++ ['\n'], by rw [failure, List.append_assoc]⟩

namespace Environment

variable {environment : Environment} {arguments : List String}

/-- What an invocation prints that does not ask for a text, or its first fault. -/
def attempt (environment : Environment) (arguments : List String) : Except Fault Text := do
  environment.answer (← Options.parse arguments)

theorem ofExcept_eq_success_iff {answer : Except Fault Text} {output : Text} :
    Outcome.ofExcept answer = .success output ↔ answer = .ok output := by
  cases answer <;> simp [Outcome.ofExcept, Outcome.success, Outcome.failure]

theorem run_of_asksForText (environment : Environment) (h : AsksForText arguments) :
    ∃ text, environment.run arguments = .success text := by
  obtain ⟨word, hword, hhead⟩ := h
  simp only [List.mem_cons, List.not_mem_nil, or_false] at hword
  unfold run
  rcases hword with rfl | rfl | rfl | rfl <;> exact ⟨_, by simp [hhead]; rfl⟩

theorem run_of_not_asksForText (h : ¬ AsksForText arguments) :
    environment.run arguments = .ofExcept (environment.attempt arguments) := by
  have hother : ∀ word ∈ ["--help", "-h", "--version", "-V"], arguments.head? ≠ some word :=
    fun word hword hhead => h ⟨word, hword, hhead⟩
  unfold run
  rw [if_neg (by simp [hother]), if_neg (by simp [hother])]
  rfl

/-- What an invocation prints is the answer for its options. -/
theorem run_eq_success_iff {options : Options} {output : Text}
    (h : Options.Reads arguments options) :
    environment.run arguments = .success output ↔ environment.answer options = .ok output := by
  rw [run_of_not_asksForText h.not_asksForText, ofExcept_eq_success_iff, attempt, h.parse_eq]
  rfl

/-- The first thing that is wrong with an invocation: with its arguments, unless they ask for a
text; with the file that is to hold its settings; or with the contents that are to hold its source
text. -/
inductive FirstFault (environment : Environment) (arguments : List String) : Fault → Prop where
  | arguments {fault : Fault} : ¬ AsksForText arguments → Options.Refuses arguments fault →
      FirstFault environment arguments fault
  | settings {options : Options} {path : String} {fault : Fault} :
      Options.Reads arguments options → options.config = some path →
      Unusable environment.decode (environment.file path) fault →
      FirstFault environment arguments fault
  | source {options : Options} {fault : Fault} :
      Options.Reads arguments options → environment.SettingsDecode options →
      Unreadable (environment.sourceContents options) fault →
      FirstFault environment arguments fault

theorem attempt_eq_ok_iff {output : Text} :
    environment.attempt arguments = .ok output ↔
      ∃ options, Options.Reads arguments options ∧ environment.answer options = .ok output := by
  unfold attempt
  simp only [bind_eq_ok_iff, Options.parse_eq_ok_iff]

/-- **The fault of an invocation** is the first thing that is wrong with it. -/
theorem attempt_eq_error_iff (hasks : ¬ AsksForText arguments) :
    environment.attempt arguments = .error fault ↔ environment.FirstFault arguments fault := by
  unfold attempt
  simp only [bind_eq_error_iff, Options.parse_eq_ok_iff, Options.parse_eq_error_iff,
    answer_eq_error_iff]
  constructor
  · rintro (hrefuses | ⟨options, hreads, ⟨path, hpath, hunusable⟩ | ⟨hdecode, hunreadable⟩⟩)
    · exact .arguments hasks hrefuses
    · exact .settings hreads hpath hunusable
    · exact .source hreads hdecode hunreadable
  · intro h
    cases h with
    | arguments _ hrefuses => exact .inl hrefuses
    | settings hreads hpath hunusable => exact .inr ⟨_, hreads, .inl ⟨_, hpath, hunusable⟩⟩
    | source hreads hdecode hunreadable => exact .inr ⟨_, hreads, .inr ⟨hdecode, hunreadable⟩⟩

theorem FirstFault.not_asksForText (h : environment.FirstFault arguments fault) :
    ¬ AsksForText arguments := by
  cases h with
  | arguments hasks _ => exact hasks
  | settings hreads _ _ | source hreads _ _ => exact hreads.not_asksForText

/-- No two faults are both the first. -/
theorem FirstFault.unique {other : Fault} (h : environment.FirstFault arguments fault)
    (hother : environment.FirstFault arguments other) : fault = other := by
  have hasks := h.not_asksForText
  exact Except.error.inj (((attempt_eq_error_iff hasks).mpr h).symm.trans
    ((attempt_eq_error_iff hasks).mpr hother))

theorem FirstFault.run_eq (h : environment.FirstFault arguments fault) :
    environment.run arguments = .failure fault := by
  rw [run_of_not_asksForText h.not_asksForText,
    (attempt_eq_error_iff h.not_asksForText).mpr h]
  rfl

/-- An invocation that asks for no text goes well if it can be understood and what it reads is in
order. -/
theorem exists_attempt_iff :
    (∃ output, environment.attempt arguments = .ok output) ↔
      ∃ options, Options.Reads arguments options ∧ environment.SettingsDecode options ∧
        ∃ source : Text, environment.sourceContents options = .ok source.utf8Encode := by
  constructor
  · rintro ⟨output, h⟩
    obtain ⟨options, hreads, hanswer⟩ := attempt_eq_ok_iff.mp h
    obtain ⟨config, source, hconfig, hsource, -⟩ := answer_eq_ok_iff.mp hanswer
    exact ⟨options, hreads, exists_config_iff.mp ⟨config, hconfig⟩, source, hsource⟩
  · rintro ⟨options, hreads, hdecode, source, hsource⟩
    obtain ⟨config, hconfig⟩ := exists_config_iff.mpr hdecode
    exact ⟨_, attempt_eq_ok_iff.mpr
      ⟨options, hreads, answer_eq_ok_iff.mpr ⟨config, source, hconfig, hsource, rfl⟩⟩⟩

/-- An invocation goes well, or there is a first thing that is wrong with it. -/
theorem run_cases (environment : Environment) (arguments : List String) :
    (∃ output, environment.run arguments = .success output) ∨
      ∃ fault, environment.FirstFault arguments fault := by
  by_cases hasks : AsksForText arguments
  · exact .inl (run_of_asksForText environment hasks)
  · cases hattempt : environment.attempt arguments with
    | error fault => exact .inr ⟨fault, (attempt_eq_error_iff hasks).mp hattempt⟩
    | ok output =>
      refine .inl ⟨output, ?_⟩
      rw [run_of_not_asksForText hasks, hattempt]
      rfl

theorem code_run_eq_zero_iff :
    (environment.run arguments).code = 0 ↔
      AsksForText arguments ∨ ∃ output, environment.attempt arguments = .ok output := by
  by_cases hasks : AsksForText arguments
  · obtain ⟨text, hrun⟩ := run_of_asksForText environment hasks
    rw [hrun]
    exact ⟨fun _ => .inl hasks, fun _ => rfl⟩
  · rw [run_of_not_asksForText hasks]
    cases environment.attempt arguments with
    | error fault =>
      refine ⟨nofun, ?_⟩
      rintro (h | ⟨_, ⟨⟩⟩)
      exact absurd h hasks
    | ok output => exact ⟨fun _ => .inr ⟨output, rfl⟩, fun _ => rfl⟩

theorem code_run_eq_one_iff :
    (environment.run arguments).code = 1 ↔ ∃ fault, environment.FirstFault arguments fault := by
  constructor
  · intro h
    rcases environment.run_cases arguments with ⟨output, hrun⟩ | hfault
    · rw [hrun] at h
      cases h
    · exact hfault
  · rintro ⟨fault, hfault⟩
    rw [hfault.run_eq]
    rfl

end Environment

open Environment in
/-- **All or nothing.** An invocation does not stop halfway: it gives an output, or it gives a
message and fails, whatever the tools do that it builds its theme with. With tools that work, it
goes well if it asks for the help or version text, or if its arguments can be understood, the file
that they name for settings holds some, and the contents that the source is read from are UTF-8. If
it fails, then for the first thing that is wrong with it. -/
theorem run_all_or_nothing (environment : Environment) (arguments : List String) :
    (∀ tools : Toolbox,
      (∃ output, environment.run? tools arguments = some ⟨0, output, []⟩) ∨
        ∃ message, environment.run? tools arguments =
          some ⟨1, [], "Error: ".toList ++ message⟩) ∧
    (∀ tools : Toolbox, tools.Works →
      environment.run? tools arguments = some (environment.run arguments)) ∧
    ((∃ output, environment.run arguments = ⟨0, output, []⟩) ∨
      ∃ message, environment.run arguments = ⟨1, [], "Error: ".toList ++ message⟩) ∧
    ((environment.run arguments).code = 0 ↔
      AsksForText arguments ∨
        ∃ options, Options.Reads arguments options ∧ environment.SettingsDecode options ∧
          ∃ source : Text, environment.sourceContents options = .ok source.utf8Encode) ∧
    ((environment.run arguments).code = 1 ↔ ∃ fault, environment.FirstFault arguments fault) ∧
    ∀ fault, environment.FirstFault arguments fault →
      environment.run arguments = .failure fault := by
  refine ⟨fun tools => ?_, fun tools hworks => environment.run?_eq hworks arguments, ?_, ?_,
    code_run_eq_one_iff, fun _ => FirstFault.run_eq⟩
  · obtain ⟨answer, hrun⟩ := environment.exists_run?_eq tools arguments
    cases answer with
    | ok output => exact .inl ⟨output, hrun⟩
    | error fault =>
      obtain ⟨message, hmessage⟩ := Outcome.exists_failure_eq fault
      exact .inr ⟨message, hrun.trans (congrArg some hmessage)⟩
  · rcases environment.run_cases arguments with houtput | ⟨fault, hfault⟩
    · exact .inl houtput
    · rw [hfault.run_eq]
      exact .inr (Outcome.exists_failure_eq fault)
  · rw [code_run_eq_zero_iff, exists_attempt_iff]

/-- What an invocation finds that can read nothing but the given files. -/
def Environment.ofFiles (files : List (String × String)) (colors : ColorOutput) : Environment where
  input := .error .denied
  file path := (files.lookup path).elim (.error .notFound) fun text => .ok text.toUTF8
  home := none
  decode := Toml.decode
  colors := colors

/-- Settings with a fault are told before a source that is missing. -/
theorem run_settings_before_source :
    let environment := Environment.ofFiles [("c.toml", "markup = 1")] .full
    let arguments := ["a.cs", "--config", "c.toml", "--ansi"]
    let told : Outcome := ⟨1, [], "Error: markup must be a string\n".toList⟩
    Toolbox.plain.Works ∧ environment.run? .plain arguments = some told ∧
      environment.run arguments = told := by
  have hreads : Options.Reads ["a.cs", "--config", "c.toml", "--ansi"]
      ⟨some "a.cs", some "c.toml", some .ansi, false, false, none⟩ :=
    ⟨[.file "a.cs" (by decide), .config "c.toml", .markup .ansi], rfl, by decide, rfl⟩
  have hfault : (match Config.parse Toml.decode "markup = 1".toList with
      | .error fault => some fault
      | .ok _ => none) = some .markupNotString := by
    decide +kernel
  have hunusable : Unusable Toml.decode (.ok "markup = 1".toUTF8) .markupNotString := by
    rw [String.toUTF8_eq_toByteArray, ← String.utf8Encode_toList]
    split at hfault
    · rename_i fault hparse
      obtain rfl := Option.some.inj hfault
      exact .undecodable _ hparse
    · cases hfault
  obtain ⟨-, hworks, -, -, -, hfirst⟩ := run_all_or_nothing
    (.ofFiles [("c.toml", "markup = 1")] .full) ["a.cs", "--config", "c.toml", "--ansi"]
  have hrun := hfirst _ (.settings hreads rfl hunusable)
  have hmessage : Outcome.failure .markupNotString =
      ⟨1, [], "Error: markup must be a string\n".toList⟩ := by
    decide
  refine ⟨Toolbox.plain_works, ?_, hrun.trans hmessage⟩
  rw [hworks _ Toolbox.plain_works, hrun, hmessage]

end Highlighter
