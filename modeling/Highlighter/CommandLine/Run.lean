import Highlighter.CommandLine.Listing
import Highlighter.CommandLine.Options
import Highlighter.Config
import Highlighter.Indentation

/-!
# Running an invocation

The program as a function: from its arguments and what it finds around it to what it prints.

* `Environment`, `Outcome`: what an invocation sees, and what it leaves behind.
* `Options.output`: what is printed for a source text.
* `run`: a whole invocation.
-/

namespace Highlighter

/-- What an invocation finds around it. -/
structure Environment where
  /-- The bytes on the standard input. -/
  input : Contents
  /-- The bytes of the file at a path. -/
  file : String → Contents
  /-- The file with the settings of the home directory, if there is a home directory. -/
  home : Option Contents
  /-- The way in which documents with settings are decoded. -/
  decode : Toml.Decoder
  /-- Whether terminals are to be sent colors. -/
  colors : ColorOutput

/-- What an invocation leaves behind. -/
structure Outcome where
  code : Nat
  output : Text
  errors : Text
deriving DecidableEq, Repr

namespace Outcome

/-- An invocation that went well. -/
def success (output : Text) : Outcome := ⟨0, output, []⟩

/-- An invocation that failed. -/
def failure (fault : Fault) : Outcome := ⟨1, [], "Error: ".toList ++ fault.message ++ ['\n']⟩

/-- An invocation that went well or failed. -/
def ofExcept : Except Fault Text → Outcome
  | .ok output => success output
  | .error fault => failure fault

end Outcome

/-! ## Fixed texts -/

/-- The name of the program, with its version. -/
def programVersion : String := "console-lexer 0.4.0"

/-- The lines of the help text. -/
def usageLines : List String :=
  [programVersion ++ " - console script highlighter",
   "",
   "Usage: console-lexer [OPTIONS] [FILE]",
   "",
   "Reads FILE, or stdin when no file is given.",
   "",
   "Options:",
   "  --ansi           Emit ANSI escape sequences",
   "  --rich-text      Emit <color=#rrggbb> rich-text tags (default)",
   "  --tokens         List matched spans instead of rendering",
   "  --token-at N     Show the token containing or preceding caret N",
   "  --strip          Remove highlight markup from the input",
   "  --config PATH    Read settings from PATH instead of ~/.console-lexer.toml",
   "  -h, --help       Show this help message",
   "  -V, --version    Show version information",
   "",
   "Set RUST_LOG=console_lexer=debug for scan diagnostics."]

/-- Lines as a text, each with a line end. -/
def unlines (lines : List String) : Text := lines.flatMap fun line => line.toList ++ ['\n']

/-! ## Answers -/

/-- The token at a caret, as a listing. -/
def caretListing (source : Text) (caret : Nat) : Text :=
  match tokenAt Rule.priority source caret with
  | some token => token.listing source
  | none => "no token at ".toList ++ Text.decimal caret ++ ['\n']

/-- All tokens, as a listing. -/
def tokenListing (source : Text) : Text :=
  (steps Rule.priority source).flatMap fun
    | .token span text => span.listing text
    | .plain .. => []

/-- What is printed for a source text: of the answers asked for, the first in the order stripped
text, token at a caret, all tokens; and the highlighted text if none of these is asked for. -/
def Options.output (options : Options) (theme : Theme) (source : Text) : Text :=
  if options.strip then theme.strip source
  else
    match options.caret with
    | some caret => caretListing source caret
    | .none => if options.tokens then tokenListing source else theme.render Rule.priority source

/-! ## Invocations -/

namespace Environment

/-- The settings that hold for an invocation: those of the file that the options name, or else
those of the home directory. A markup among the options overrides theirs. -/
def config (environment : Environment) (options : Options) : Except Fault Config := do
  let config ← match options.config with
    | some path => Config.ofFile environment.decode (environment.file path)
    | .none => .ok (Config.home environment.decode environment.home)
  return { config with markup := options.markup.getD config.markup }

/-- The source text: that of the file that the options name, or else the standard input. -/
def source (environment : Environment) (options : Options) : Except Fault Text :=
  readText <| match options.file with
    | some path => environment.file path
    | .none => environment.input

/-- What an invocation with given options prints, or its first fault: in the settings, then in
the source text. -/
def answer (environment : Environment) (options : Options) : Except Fault Text := do
  let config ← environment.config options
  let source ← environment.source options
  return options.output (config.theme environment.colors) source

/-- An invocation: help and version are given if the first argument asks for them. -/
def run (environment : Environment) (arguments : List String) : Outcome :=
  if arguments.head? = some "--help" ∨ arguments.head? = some "-h" then
    .success (unlines usageLines)
  else if arguments.head? = some "--version" ∨ arguments.head? = some "-V" then
    .success (unlines [programVersion])
  else .ofExcept (do environment.answer (← Options.parse arguments))

end Environment

end Highlighter
