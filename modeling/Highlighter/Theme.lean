import Highlighter.Markup
import Highlighter.Scan

/-!
# Themes

A theme knows how each type of token is written in one markup, and takes it out again.

* `Theme.ofStyles`: the theme of a markup and the styles in the settings.
* `Theme.render`: a text with its tokens highlighted.
* `Theme.pieces`: all that a theme may write besides the characters of a text, longest first.
* `Theme.strip`: a text with the pieces taken out, or turned back into what they stand for.
-/

namespace Highlighter

/-- A markup with the tags of the token types in it. -/
structure Theme where
  markup : Markup
  tags : TokenType → Tag

namespace Theme

/-- The theme in which every styled type has its effective style. Text of the default type is
never tagged. -/
def ofStyles (colors : ColorOutput) (markup : Markup) (styles : StyleMap) : Theme where
  markup := markup
  tags type :=
    if type = .default then .empty else Tag.ofStyle markup colors (styles.effective type)

/-- The theme in which every type has its default style. -/
def ofMarkup (colors : ColorOutput) (markup : Markup) : Theme := ofStyles colors markup .empty

/-- The tag of a type, unless it is empty. -/
def tag? (theme : Theme) (type : TokenType) : Option Tag :=
  let tag := theme.tags type
  if tag.isEmpty then none else some tag

/-! ## Rendering -/

/-- A text of a theme's markup in which no character is taken for markup. -/
def escape (theme : Theme) (text : Text) : Text := text.flatMap theme.markup.escape

/-- A text with the tag of a type around it. -/
def wrap (theme : Theme) (type : TokenType) (text : Text) : Text :=
  (theme.tags type).opening ++ theme.escape text ++ (theme.tags type).closing

/-- What is written for one step of a scan. -/
def renderStep (theme : Theme) : Step → Text
  | .token span text => theme.wrap span.tokenType text
  | .plain _ c => theme.markup.escape c

/-- A text with its tokens highlighted. -/
def render (theme : Theme) (rules : List Rule) (text : Text) : Text :=
  (steps rules text).flatMap theme.renderStep

end Theme

/-! ## Stripping -/

/-- Whether one piece of markup is looked for before another: the one with more bytes is, and of
two with equally many the one that comes first by its characters. -/
def looksFirst (a b : Text) : Bool :=
  b.byteCount < a.byteCount || (a.byteCount = b.byteCount && a < b)

/-- Puts a piece where it belongs among the pieces in the order they are looked for in, unless it
is there already. -/
def insertPiece (piece : Text) : List Text → List Text
  | [] => [piece]
  | other :: rest =>
    if piece = other then other :: rest
    else if looksFirst piece other then piece :: other :: rest
    else other :: insertPiece piece rest

/-- Replaces pieces by their meanings from left to right. Where several pieces stand, the first of
the list counts. The next `skip` characters belong to a piece that has been replaced. -/
def stripFrom (pieces : List Text) (meaning : Text → Text) (skip : Nat) : Text → Text
  | [] => []
  | c :: rest =>
    match skip with
    | skip + 1 => stripFrom pieces meaning skip rest
    | 0 =>
      match pieces.find? (·.isPrefixOf (c :: rest)) with
      | some piece => meaning piece ++ stripFrom pieces meaning (piece.length - 1) rest
      | none => c :: stripFrom pieces meaning 0 rest

namespace Theme

/-- All pieces of markup that a theme writes besides the characters of a text, each once and in the
order they are looked for in: what is written for a character, and the two parts of each tag. -/
def pieces (theme : Theme) : List Text :=
  let tags := TokenType.styled.flatMap fun type =>
    [(theme.tags type).opening, (theme.tags type).closing]
  let escapes := theme.markup.escapes.map (·.2)
  ((tags ++ escapes).filter (!·.isEmpty)).foldr insertPiece []

/-- A text without the markup of a theme. -/
def strip (theme : Theme) (text : Text) : Text :=
  stripFrom theme.pieces theme.markup.unescape 0 text

end Theme

end Highlighter
