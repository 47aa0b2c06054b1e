import Highlighter.Proofs.Marks
import Highlighter.Proofs.Slices

/-!
# Building a theme

An invocation builds its theme before it reads the source text, with tools that may fail: escape
sequences are written to texts one after the other, and the pieces of markup are compiled into what
replaces them. Nothing is assumed of the tools where they fail, which is then a fault like any
other.

* `Toolbox`, `Toolbox.Works`: the tools, and that they do what they are for.
* `Theme.build?`, `build?_eq`: a theme from its parts. With tools that work there is one, and it
  writes and takes out what `Theme.ofStyles` does.
* `Environment.run?`, `exists_run?_eq`: an invocation whose tools may fail and that may stop. It
  does not stop, whatever the tools do.
* `run?_eq`: with tools that work its outcome is the one of `Environment.run`.
-/

namespace Highlighter

/-! ## Tools -/

/-- What replaces pieces of markup in a text, given what each piece stands for. -/
abbrev Replacement := (Text → Text) → Text → Text

/-- What replaces the given pieces wherever they stand. -/
def Replacement.ofPieces (pieces : List Text) : Replacement :=
  fun meaning => stripFrom pieces meaning 0

/-- What a theme is built with. A tool that fails gives a reason. -/
structure Toolbox where
  /-- A text with an escape sequence written behind it. -/
  write : Text → Text → Except Text Text
  /-- What replaces the given pieces, of which the first that stands at a place counts. -/
  compile : List Text → Except Text Replacement

namespace Toolbox

/-- Tools that work: a sequence can be written to any text, and the pieces of any theme can be
compiled. -/
structure Works (tools : Toolbox) : Prop where
  write_eq : ∀ text sequence, tools.write text sequence = .ok (text ++ sequence)
  compile_eq : ∀ colors markup styles,
    tools.compile (Theme.ofStyles colors markup styles).pieces =
      .ok (.ofPieces (Theme.ofStyles colors markup styles).pieces)

/-- Tools that write to any text and compile any pieces. -/
def plain : Toolbox where
  write text sequence := .ok (text ++ sequence)
  compile pieces := .ok (.ofPieces pieces)

theorem plain_works : plain.Works := ⟨fun _ _ => rfl, fun _ _ _ => rfl⟩

/-- Escape sequences written one after the other behind a text, up to the first that fails. -/
def writeAll (tools : Toolbox) (text : Text) (sequences : List Text) : Except Fault Text :=
  sequences.foldlM (fun text sequence => (tools.write text sequence).mapError .notWritten) text

theorem Works.writeAll_eq {tools : Toolbox} (h : tools.Works) (text : Text)
    (sequences : List Text) : tools.writeAll text sequences = .ok (text ++ sequences.flatten) := by
  unfold writeAll
  induction sequences generalizing text with
  | nil => rw [List.flatten_nil, List.append_nil]; rfl
  | cons sequence sequences ih =>
    rw [List.foldlM_cons, h.write_eq, List.flatten_cons, ← List.append_assoc]
    exact ih (text ++ sequence)

end Toolbox

variable {tools : Toolbox}

/-! ## Themes -/

/-- The tag of a style, if its escape sequences can be written. -/
def Tag.ofStyle? (tools : Toolbox) (markup : Markup) (colors : ColorOutput) (style : Style) :
    Except Fault Tag := do
  if style.isPlain then
    return empty
  match markup with
  | .richText => return richText style
  | .ansi =>
    let opening ← tools.writeAll [] (style.traits.map (Trait.mark .ansi colors .opening))
    let closing ← tools.writeAll [] [escapeSequence ['0']]
    return ⟨opening, closing⟩

theorem Tag.ofStyle?_eq (h : tools.Works) (markup : Markup) (colors : ColorOutput)
    (style : Style) : ofStyle? tools markup colors style = .ok (ofStyle markup colors style) := by
  unfold ofStyle?
  by_cases hplain : style = .plain
  · rw [if_pos (Style.isPlain_iff.mpr hplain), ofStyle_of_plain hplain]
    rfl
  rw [if_neg (mt Style.isPlain_iff.mp hplain)]
  cases markup with
  | richText => rw [ofStyle_richText hplain]; rfl
  | ansi =>
    have hopening : (ansi colors style).opening =
        (style.traits.map (Trait.mark .ansi colors .opening)).flatten := by
      rw [← ofStyle_ansi hplain, opening_ofStyle, List.flatMap]
    simp only [h.writeAll_eq, ofStyle_ansi hplain, List.nil_append, ← hopening]
    rfl

/-- The theme of a markup in which the listed types have the listed tags. -/
def Theme.ofTags (markup : Markup) (tags : List (TokenType × Tag)) : Theme where
  markup := markup
  tags type := (tags.lookup type).getD .empty

/-- The theme of the settings lists the tags of the styled types. -/
theorem Theme.ofTags_styled (colors : ColorOutput) (markup : Markup) (styles : StyleMap) :
    ofTags markup (TokenType.styled.map fun type =>
      (type, Tag.ofStyle markup colors (styles.effective type))) =
        ofStyles colors markup styles := by
  unfold ofTags ofStyles
  congr 1
  funext type
  cases type <;> rfl

/-- The theme of a markup and the styles in the settings, with what replaces its pieces, if all of
it can be built. -/
def Theme.build? (tools : Toolbox) (colors : ColorOutput) (markup : Markup) (styles : StyleMap) :
    Except Fault (Theme × Replacement) := do
  let tags ← TokenType.styled.mapM fun type =>
    return (type, ← Tag.ofStyle? tools markup colors (styles.effective type))
  let replace ← (tools.compile (ofTags markup tags).pieces).mapError .notCompiled
  return (ofTags markup tags, replace)

/-- **With tools that work, every theme can be built**, from whatever settings. -/
theorem Theme.build?_eq (h : tools.Works) (colors : ColorOutput) (markup : Markup)
    (styles : StyleMap) :
    build? tools colors markup styles =
      .ok (ofStyles colors markup styles, .ofPieces (ofStyles colors markup styles).pieces) := by
  have htags : TokenType.styled.mapM (fun type => do
      return (type, ← Tag.ofStyle? tools markup colors (styles.effective type))) =
      (.ok (TokenType.styled.map fun type =>
        (type, Tag.ofStyle markup colors (styles.effective type))) : Except Fault _) := by
    simp only [Tag.ofStyle?_eq h]
    exact List.mapM_pure
  unfold build?
  rw [htags]
  show (do
    let replace ← (tools.compile (ofTags markup _).pieces).mapError Fault.notCompiled
    return (ofTags markup _, replace)) = _
  rw [ofTags_styled, h.compile_eq]
  rfl

/-! ## Invocations -/

/-- What is printed for a source text, if all that is listed can be cut out of it. -/
def Options.output? (options : Options) (theme : Theme) (replace : Replacement) (source : Text) :
    Option Text :=
  if options.strip then some (replace theme.markup.unescape source)
  else
    match options.caret with
    | some caret => caretListing? source caret
    | .none =>
      if options.tokens then tokenListing? source else some (theme.render Rule.priority source)

/-- No answer stops, whatever replaces markup in it. -/
theorem Options.exists_output?_eq (options : Options) (theme : Theme) (replace : Replacement)
    (source : Text) : ∃ output, options.output? theme replace source = some output := by
  unfold output?
  split
  · exact ⟨_, rfl⟩
  · split
    · exact ⟨_, caretListing?_eq source _⟩
    · split
      · exact ⟨_, tokenListing?_eq source⟩
      · exact ⟨_, rfl⟩

theorem Options.output?_eq (options : Options) (theme : Theme) (source : Text) :
    options.output? theme (.ofPieces theme.pieces) source = some (options.output theme source) := by
  unfold output? output
  cases options.strip with
  | true => rfl
  | false =>
    cases options.caret with
    | some caret => exact caretListing?_eq source caret
    | none =>
      cases options.tokens with
      | true => exact tokenListing?_eq source
      | false => rfl

namespace Environment

/-- What an invocation with given options prints, or its first fault: in the settings, then in
building the theme, then in the source text. It stops if something cannot be cut out of the source
text. -/
def answer? (environment : Environment) (tools : Toolbox) (options : Options) :
    ExceptT Fault Option Text := do
  let config ← environment.config options
  let (theme, replace) ← Theme.build? tools environment.colors config.markup config.styles
  let source ← environment.source options
  options.output? theme replace source

/-- An invocation whose tools may fail, and that stops if something cannot be cut out of the source
text. -/
def run? (environment : Environment) (tools : Toolbox) (arguments : List String) :
    Option Outcome :=
  if arguments.head? = some "--help" ∨ arguments.head? = some "-h" then
    some (.success (unlines usageLines))
  else if arguments.head? = some "--version" ∨ arguments.head? = some "-V" then
    some (.success (unlines [programVersion]))
  else
    let answer : ExceptT Fault Option Text := do
      environment.answer? tools (← Options.parse arguments)
    answer.run.map .ofExcept

variable (environment : Environment)

/-- A step with a fault does not stop what goes on after it. -/
theorem exists_run_bind {α : Type} (step : Except Fault α) {rest : α → ExceptT Fault Option Text}
    (h : ∀ value, ∃ answer, (rest value).run = some answer) :
    ∃ answer, (liftM step >>= rest : ExceptT Fault Option Text).run = some answer := by
  cases step with
  | error fault => exact ⟨.error fault, rfl⟩
  | ok value => exact h value

theorem exists_answer?_eq (tools : Toolbox) (options : Options) :
    ∃ answer, (environment.answer? tools options).run = some answer := by
  unfold answer?
  refine exists_run_bind _ fun config => exists_run_bind _ fun built =>
    exists_run_bind _ fun source => ?_
  obtain ⟨output, houtput⟩ := options.exists_output?_eq built.1 built.2 source
  exact ⟨.ok output, congrArg (Option.map Except.ok) houtput⟩

theorem answer?_eq (h : tools.Works) (options : Options) :
    (environment.answer? tools options).run = some (environment.answer options) := by
  unfold answer? answer
  simp only [Theme.build?_eq h]
  cases environment.config options with
  | error fault => rfl
  | ok config =>
    cases environment.source options with
    | error fault => rfl
    | ok source =>
      have houtput := options.output?_eq (config.theme environment.colors) source
      exact congrArg (Option.map Except.ok) houtput

/-- **No invocation stops**, whatever its tools do: it comes to an output or to a fault. -/
theorem exists_run?_eq (tools : Toolbox) (arguments : List String) :
    ∃ answer, environment.run? tools arguments = some (.ofExcept answer) := by
  unfold run?
  split
  · exact ⟨.ok _, rfl⟩
  · split
    · exact ⟨.ok _, rfl⟩
    · obtain ⟨answer, hanswer⟩ :=
        exists_run_bind (Options.parse arguments) (environment.exists_answer?_eq tools)
      exact ⟨answer, congrArg (Option.map Outcome.ofExcept) hanswer⟩

/-- **With tools that work**, no step of an invocation fails besides those that `Environment.run`
shows. -/
theorem run?_eq (h : tools.Works) (arguments : List String) :
    environment.run? tools arguments = some (environment.run arguments) := by
  unfold run? run
  split
  · rfl
  · split
    · rfl
    · cases Options.parse arguments with
      | error fault => rfl
      | ok options =>
        exact congrArg (Option.map Outcome.ofExcept) (environment.answer?_eq h options)

end Environment

end Highlighter
