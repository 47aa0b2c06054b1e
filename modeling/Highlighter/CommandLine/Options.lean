import Highlighter.Markup

/-!
# Command-line options

* `Options`: what an invocation asks for.
* `Options.parse`: the options that a list of arguments stands for, or the first fault.
-/

namespace Highlighter

/-- What an invocation asks for. -/
structure Options where
  file : Option String
  config : Option String
  markup : Option Markup
  tokens : Bool
  strip : Bool
  caret : Option Nat
deriving DecidableEq, Repr

/-- The forms of argument. -/
inductive Argument where
  | ansi
  | richText
  | tokens
  | strip
  | tokenAt
  | config
  | unknown
  | file
deriving DecidableEq, Repr

/-- The form of an argument: an option that is known, an unknown one, or else a file name. -/
def Argument.ofString (argument : String) : Argument :=
  if argument = "--ansi" then ansi
  else if argument = "--rich-text" then richText
  else if argument = "--tokens" then tokens
  else if argument = "--strip" then strip
  else if argument = "--token-at" then tokenAt
  else if argument = "--config" then config
  else if argument.toList.head? = some '-' then unknown
  else file

namespace Options

/-- An invocation without arguments. -/
def none : Options := ⟨.none, .none, .none, false, false, .none⟩

/-- The number that decimal digits stand for. -/
def digitsValue (digits : Text) : Nat :=
  digits.foldl (fun n c => 10 * n + (c.toNat - '0'.toNat)) 0

/-- A caret offset: ASCII digits, possibly after a plus sign, for a number of 64 bits. -/
def caret? (text : Text) : Option Nat :=
  let digits := if text.head? = some '+' then text.drop 1 else text
  if !digits.isEmpty && digits.all Char.isDigit && digitsValue digits < UInt64.size then
    some (digitsValue digits)
  else .none

/-- The options with those of further arguments added. Where two arguments say different things,
the later one holds; but there is only one file. -/
def add (options : Options) : List String → Except Fault Options
  | [] => .ok options
  | argument :: rest =>
    match Argument.ofString argument, rest with
    | .ansi, rest => add { options with markup := some .ansi } rest
    | .richText, rest => add { options with markup := some .richText } rest
    | .tokens, rest => add { options with tokens := true } rest
    | .strip, rest => add { options with strip := true } rest
    | .tokenAt, [] => .error .caretMissing
    | .tokenAt, value :: rest =>
      match caret? value.toList with
      | some caret => add { options with caret := some caret } rest
      | .none => .error (.caretInvalid value.toList)
    | .config, [] => .error .configPathMissing
    | .config, path :: rest => add { options with config := some path } rest
    | .unknown, _ => .error (.unknownOption argument.toList)
    | .file, rest =>
      if options.file.isSome then .error .extraFile
      else add { options with file := some argument } rest

/-- The options that arguments stand for. -/
def parse (arguments : List String) : Except Fault Options := add none arguments

end Options

end Highlighter
