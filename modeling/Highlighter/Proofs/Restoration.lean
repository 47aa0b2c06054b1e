import Highlighter.Proofs.Invocation
import Highlighter.Proofs.RoundTrip

/-!
# Taking back what was printed

What an invocation prints can be turned back into its source text by another invocation, which is
given the same arguments but strips its input.

* `withoutFile`: arguments without the file among them.
* `Options.stripped`, `Reads.stripped`: the options that the arguments stand for then.
* `strip_render_theme`: the theme of any settings takes out what it wrote.
* `run_strip_run`: the source text comes back from what was printed for it.
-/

namespace Highlighter

/-! ## The arguments of the second invocation -/

/-- The arguments without the file among them. Values of options stay. -/
def withoutFile : List String → List String
  | [] => []
  | argument :: rest =>
    match Argument.ofString argument, rest with
    | .tokenAt, value :: rest => argument :: value :: withoutFile rest
    | .config, path :: rest => argument :: path :: withoutFile rest
    | .file, rest => withoutFile rest
    | _, rest => argument :: withoutFile rest

/-- A phrase at the start of the arguments stays, unless it names the file. -/
theorem withoutFile_words (phrase : Phrase) (rest : List String) :
    withoutFile (phrase.words ++ rest) =
      (if phrase.isFile then [] else phrase.words) ++ withoutFile rest := by
  cases phrase with
  | markup choice => cases choice <;> rfl
  | tokens | strip | tokenAt | config => rfl
  | file name plain =>
    show withoutFile (name :: rest) = _
    rw [withoutFile.eq_def]
    simp only [Argument.ofString_of_plain plain]
    rfl

theorem withoutFile_written (phrases : List Phrase) :
    withoutFile (written phrases) = written (phrases.filter (!·.isFile)) := by
  induction phrases with
  | nil => rfl
  | cons phrase phrases ih =>
    rw [written_cons, withoutFile_words, ih, List.filter_cons]
    cases phrase.isFile <;> rfl

namespace Options

/-- The options of an invocation that strips its input, and is like another one otherwise. -/
def stripped (options : Options) : Options := { options with strip := true, file := .none }

theorem stripped_apply_of_isFile {phrase : Phrase} (h : phrase.isFile) (options : Options) :
    (phrase.apply options).stripped = options.stripped := by
  cases phrase with
  | file name plain => rfl
  | _ => cases h

theorem stripped_apply {phrase : Phrase} (h : phrase.isFile = false) (options : Options) :
    (phrase.apply options).stripped = phrase.apply options.stripped := by
  cases phrase with
  | file name plain => cases h
  | _ => rfl

theorem stripped_after (options : Options) (phrases : List Phrase) :
    (options.after phrases).stripped =
      options.stripped.after (phrases.filter (!·.isFile)) := by
  induction phrases generalizing options with
  | nil => rfl
  | cons phrase phrases ih =>
    rw [after_cons, ih, List.filter_cons]
    cases hfile : phrase.isFile with
    | true => rw [stripped_apply_of_isFile hfile]; rfl
    | false => rw [stripped_apply hfile]; rfl

/-- **Stripping goes in front of the arguments, and the file is left out of them.** -/
theorem Reads.stripped {arguments : List String} {options : Options}
    (h : Reads arguments options) :
    Reads ("--strip" :: withoutFile arguments) options.stripped := by
  obtain ⟨phrases, rfl, hcount, rfl⟩ := h
  refine ⟨.strip :: phrases.filter (!·.isFile), ?_, ?_, ?_⟩
  · rw [withoutFile_written]
    rfl
  · have hnone : ∀ phrase ∈ phrases.filter (!·.isFile), ¬ phrase.isFile := by
      intro phrase hphrase
      simpa using (List.mem_filter.mp hphrase).2
    rw [List.countP_cons_of_neg Bool.false_ne_true, List.countP_eq_zero.mpr hnone]
    exact Nat.zero_le 1
  · rw [stripped_after]
    rfl

end Options

/-! ## The second invocation -/

/-- The theme of any settings takes out what it wrote. -/
theorem strip_render_theme (config : Config) (colors : ColorOutput) (source : Text) :
    (config.theme colors).strip ((config.theme colors).render Rule.priority source) = source := by
  have hall : ∀ step ∈ steps Rule.priority source, step.text ≠ [] :=
    fun _ hstep => (tiles_steps Rule.priority source).text_ne_nil hstep
  calc
    _ = (steps Rule.priority source).flatMap Step.text :=
      (Theme.strip_flatMap_renderStep hall).2
    _ = source := flatMap_text_steps Rule.priority source

open Environment in
/-- **What was printed is taken back.** If an invocation renders its source, then the same arguments
without the file, with `--strip` in front and the output as standard input, give the source. -/
theorem run_strip_run {environment : Environment} {arguments : List String} {options : Options}
    {output : Text} (hparse : Options.parse arguments = .ok options)
    (hstrip : options.strip = false) (htokens : options.tokens = false)
    (hcaret : options.caret = none) (hrun : environment.run arguments = .success output) :
    ∃ source : Text, environment.sourceContents options = .ok source.utf8Encode ∧
      ({ environment with input := .ok output.utf8Encode } : Environment).run
        ("--strip" :: withoutFile arguments) = .success source := by
  have hreads := Options.parse_eq_ok_iff.mp hparse
  obtain ⟨config, source, hconfig, hsource, rfl⟩ :=
    answer_eq_ok_iff.mp ((run_eq_success_iff hreads).mp hrun)
  refine ⟨source, hsource, ?_⟩
  rw [run_eq_success_iff hreads.stripped, answer_eq_ok_iff]
  -- Both invocations build their theme from the same settings.
  refine ⟨config, options.output (config.theme environment.colors) source, hconfig, rfl, ?_⟩
  have houtput : options.output (config.theme environment.colors) source =
      (config.theme environment.colors).render Rule.priority source := by
    simp [Options.output, hstrip, htokens, hcaret]
  rw [houtput]
  exact strip_render_theme config environment.colors source

/-- Escape sequences for a style from a file are taken back, and one of the source is restored. -/
theorem run_strip_run_ansi :
    ∃ output,
      (Environment.ofFiles [("a.cs", "if \x1b"), ("c.toml", "styles.keyword = 'red'")]
          .suppressed).run
        ["--rich-text", "a.cs", "--config", "c.toml", "--ansi"] = .success output ∧
      ({ Environment.ofFiles [("a.cs", "if \x1b"), ("c.toml", "styles.keyword = 'red'")] .suppressed
          with input := .ok output.utf8Encode } : Environment).run
        ["--strip", "--rich-text", "--config", "c.toml", "--ansi"] = .success "if \x1b".toList := by
  have hparse : Options.parse ["--rich-text", "a.cs", "--config", "c.toml", "--ansi"] =
      .ok ⟨some "a.cs", some "c.toml", some .ansi, false, false, none⟩ := rfl
  have hrun : (Environment.ofFiles [("a.cs", "if \x1b"), ("c.toml", "styles.keyword = 'red'")]
      .suppressed).run ["--rich-text", "a.cs", "--config", "c.toml", "--ansi"] =
        .success "\x1b[m\x1b[1mif\x1b[0m \u241b[".toList := by
    decide +kernel
  obtain ⟨source, hsource, hagain⟩ := run_strip_run hparse rfl rfl rfl hrun
  have htext : source = "if \x1b".toList := by
    have hread : readText (.ok "if \x1b".toUTF8) = .ok source := readText_eq_ok_iff.mpr hsource
    rw [String.toUTF8_eq_toByteArray, ← String.utf8Encode_toList,
      readText_eq_ok_iff.mpr rfl] at hread
    exact (Except.ok.inj hread).symm
  rw [htext] at hagain
  exact ⟨_, hrun, hagain⟩

end Highlighter
