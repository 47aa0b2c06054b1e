import Highlighter.Style

/-!
# Markup

A markup writes styles into text: as rich-text tags such as `<b>` or as terminal escape sequences.
A style is written before the text it applies to and taken back after it.

* `Markup.parse`: a markup from one of its names.
* `Markup.escapes`: the characters that would be taken for markup, with what is written for them.
* `Markup.escape`, `Markup.unescape`: what is written for a character, and back.
* `Tag.ofStyle`: how a style is written before and after a text.
-/

namespace Highlighter

/-- A way to write styles into text. -/
inductive Markup where
  | richText
  | ansi
deriving DecidableEq, Repr

namespace Markup

/-- The name of a markup. -/
def name : Markup → String
  | richText => "rich-text"
  | ansi => "ansi"

/-- The names of the markups, several for each. -/
def names : List (String × Markup) :=
  [("rich-text", richText), ("richtext", richText), ("rich", richText), ("ansi", ansi),
   ("terminal", ansi)]

/-- The markup that a name stands for, whatever its case; a fault shows the name as given. -/
def parse (name : Text) : Except Fault Markup :=
  match names.find? (·.1.toList = Unicode.lowercase name) with
  | some (_, markup) => .ok markup
  | none => .error (.unknownMarkup name)

/-- The characters that must not be written as they are, with what is written for them. -/
def escapes : Markup → List (Char × Text)
  | richText => [('<', "<noparse><</noparse>".toList)]
  | ansi => [('\x1b', ['\u241b', '[']), ('\u241b', ['\u241b', '\u241b'])]

/-- What is written for a character of the text. -/
def escape (markup : Markup) (c : Char) : Text :=
  match markup.escapes.find? (·.1 = c) with
  | some (_, written) => written
  | none => [c]

/-- What a piece of markup stands for: the character it is written for, or nothing for a tag. -/
def unescape (markup : Markup) (piece : Text) : Text :=
  match markup.escapes.find? (·.2 = piece) with
  | some (c, _) => [c]
  | none => []

end Markup

/-- Whether a terminal is to be sent colors. Without them, the codes that select a color are
still written, but empty. -/
inductive ColorOutput where
  | full
  | suppressed
deriving DecidableEq, Repr

/-- What is written before and after a text to give it a style. -/
structure Tag where
  opening : Text
  closing : Text
deriving DecidableEq, Repr

namespace Tag

/-- The tag of text without style: nothing is written. -/
def empty : Tag := ⟨[], []⟩

/-- Whether a tag writes nothing. -/
def isEmpty (tag : Tag) : Bool := tag.opening.isEmpty && tag.closing.isEmpty

/-- The tag that opens `outer` first and closes it last. -/
def nest (outer inner : Tag) : Tag :=
  ⟨outer.opening ++ inner.opening, inner.closing ++ outer.closing⟩

/-- A tag that is written if a condition holds. -/
def onlyIf (condition : Bool) (tag : Tag) : Tag := if condition then tag else empty

/-- The rich-text tag of a color. -/
def richColor (color : Color) : Tag :=
  match color.hex? with
  | some hex => ⟨"<color=".toList ++ hex ++ ['>'], "</color>".toList⟩
  | none => empty

/-- A style in rich text: color, bold and italic tags, closed in the opposite order. -/
def richText (style : Style) : Tag :=
  (richColor style.foreground).nest <|
    (onlyIf style.bold ⟨"<b>".toList, "</b>".toList⟩).nest <|
      onlyIf style.italic ⟨"<i>".toList, "</i>".toList⟩

/-- A terminal escape sequence that sets display attributes. -/
def escapeSequence (parameters : Text) : Text := '\x1b' :: '[' :: parameters ++ ['m']

/-- The parameters that select a color. -/
def colorParameters (colors : ColorOutput) (mix : Rgb) : Text :=
  match colors with
  | .full =>
    "38;2;".toList ++ Text.decimal mix.red.toNat ++ [';'] ++ Text.decimal mix.green.toNat ++ [';']
      ++ Text.decimal mix.blue.toNat
  | .suppressed => []

/-- A style on a terminal: each attribute is set by a sequence of its own, and one sequence
resets them all. -/
def ansi (colors : ColorOutput) (style : Style) : Tag where
  opening :=
    (match style.foreground.rgb with
      | some mix => escapeSequence (colorParameters colors mix)
      | none => [])
    ++ (if style.bold then escapeSequence ['1'] else [])
    ++ (if style.italic then escapeSequence ['3'] else [])
  closing := escapeSequence ['0']

/-- How a style is written in a markup; nothing is written for the style of plain text. -/
def ofStyle (markup : Markup) (colors : ColorOutput) (style : Style) : Tag :=
  if style.isPlain then empty
  else match markup with
    | .richText => richText style
    | .ansi => ansi colors style

end Tag

end Highlighter
