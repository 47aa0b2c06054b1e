import Highlighter.Color
import Highlighter.TokenType

/-!
# Styles

* `Style`: how a token looks.
* `TokenType.defaultStyle`: how the tokens of a type look unless settings say otherwise.
* `StyleMap`: the styles that settings give to token types.
-/

namespace Highlighter

/-- How text looks. -/
structure Style where
  foreground : Color
  bold : Bool
  italic : Bool
deriving DecidableEq, Repr

namespace Style

/-- The look of text that has no style. -/
def plain : Style := ⟨.default, false, false⟩

/-- Whether a style is the one of text without style. -/
def isPlain (style : Style) : Bool := style = plain

/-- Text in a mixed color, neither bold nor italic. -/
def colored (red green blue : UInt8) : Style := ⟨.mixed ⟨red, green, blue⟩, false, false⟩

end Style

/-- How the tokens of a type look unless settings say otherwise. -/
def TokenType.defaultStyle : TokenType → Style
  | comment => { Style.colored 0x57 0xa6 0x4a with italic := true }
  | string => Style.colored 0xd6 0x9d 0x85
  | char => Style.colored 0xd6 0x9d 0x85
  | number => Style.colored 0xb5 0xce 0xa8
  | keyword => { Style.colored 0x56 0x9c 0xd6 with bold := true }
  | operator => Style.colored 0xa5 0xa5 0xa5
  | default => Style.plain

/-- The styles that settings give to token types. -/
abbrev StyleMap := TokenType → Option Style

namespace StyleMap

/-- No settings at all. -/
def empty : StyleMap := fun _ => none

/-- The settings with the style of one type put in, or replaced. -/
def insert (styles : StyleMap) (type : TokenType) (style : Style) : StyleMap :=
  fun other => if other = type then some style else styles other

/-- The style of a type: the one in the settings or else the default one. -/
def effective (styles : StyleMap) (type : TokenType) : Style :=
  (styles type).getD type.defaultStyle

end StyleMap

end Highlighter
