import Highlighter.Fault
import Highlighter.Hex
import Highlighter.Unicode.Lowercase
import Highlighter.Unicode.WhiteSpace

/-!
# Colors

A color is the default one of the display, one of sixteen palette colors, or a mix of red, green
and blue.

* `Color.rgb`: the mix that a color stands for, if it is not the default color.
* `Color.hex?`: a color as `#rrggbb`.
* `Color.parse`: a color from a palette name or from six hexadecimal digits.
-/

namespace Highlighter

/-- A mix of red, green and blue. -/
structure Rgb where
  red : UInt8
  green : UInt8
  blue : UInt8
deriving DecidableEq, Repr

/-- The mix as six lowercase hexadecimal digits. -/
def Rgb.hex (mix : Rgb) : Text := hexByte mix.red ++ hexByte mix.green ++ hexByte mix.blue

/-- The mix that six hexadecimal digits stand for, in either case. -/
def Rgb.ofHex? : Text → Option Rgb
  | [r₁, r₀, g₁, g₀, b₁, b₀] => do
    let red ← hexByte? r₁ r₀
    let green ← hexByte? g₁ g₀
    let blue ← hexByte? b₁ b₀
    some ⟨red, green, blue⟩
  | _ => none

/-! ## The palette -/

/-- The palette colors. -/
inductive Shade where
  | black
  | red
  | green
  | yellow
  | blue
  | magenta
  | cyan
  | white
  | brightBlack
  | brightRed
  | brightGreen
  | brightYellow
  | brightBlue
  | brightMagenta
  | brightCyan
  | brightWhite
deriving DecidableEq, Repr

namespace Shade

/-- The names of the palette colors; bright black has three. -/
def names : List (String × Shade) :=
  [("black", black), ("red", red), ("green", green), ("yellow", yellow), ("blue", blue),
   ("magenta", magenta), ("cyan", cyan), ("white", white), ("bright-black", brightBlack),
   ("gray", brightBlack), ("grey", brightBlack), ("bright-red", brightRed),
   ("bright-green", brightGreen), ("bright-yellow", brightYellow), ("bright-blue", brightBlue),
   ("bright-magenta", brightMagenta), ("bright-cyan", brightCyan), ("bright-white", brightWhite)]

/-- The mix of a palette color. -/
def rgb : Shade → Rgb
  | black => ⟨0x00, 0x00, 0x00⟩
  | red => ⟨0xcd, 0x31, 0x31⟩
  | green => ⟨0x0d, 0xbc, 0x79⟩
  | yellow => ⟨0xe5, 0xe5, 0x10⟩
  | blue => ⟨0x24, 0x72, 0xc8⟩
  | magenta => ⟨0xbc, 0x3f, 0xbc⟩
  | cyan => ⟨0x11, 0xa8, 0xcd⟩
  | white => ⟨0xe5, 0xe5, 0xe5⟩
  | brightBlack => ⟨0x66, 0x66, 0x66⟩
  | brightRed => ⟨0xf1, 0x4c, 0x4c⟩
  | brightGreen => ⟨0x23, 0xd1, 0x8b⟩
  | brightYellow => ⟨0xf5, 0xf5, 0x43⟩
  | brightBlue => ⟨0x3b, 0x8e, 0xea⟩
  | brightMagenta => ⟨0xd6, 0x70, 0xd6⟩
  | brightCyan => ⟨0x29, 0xb8, 0xdb⟩
  | brightWhite => ⟨0xff, 0xff, 0xff⟩

end Shade

/-! ## Colors -/

/-- A color of text. -/
inductive Color where
  | default
  | palette (shade : Shade)
  | mixed (mix : Rgb)
deriving DecidableEq, Repr

namespace Color

/-- The mix that a color stands for; the default color of the display stands for none. -/
def rgb : Color → Option Rgb
  | default => none
  | palette shade => some shade.rgb
  | mixed mix => some mix

/-- A color as `#rrggbb`, in lowercase. -/
def hex? (color : Color) : Option Text := color.rgb.map fun mix => '#' :: mix.hex

/-- The color that a lowercase name stands for. -/
def ofName? (name : Text) : Option Color :=
  if name = "default".toList then some default
  else (Shade.names.find? (·.1.toList = name)).map (palette ·.2)

/-- The color that six hexadecimal digits stand for, with or without one `#` before them. -/
def ofHex? : Text → Option Color
  | '#' :: digits => (Rgb.ofHex? digits).map mixed
  | digits => (Rgb.ofHex? digits).map mixed

/-- The color that a text names, whatever its case, or writes in hexadecimal. White space around
it is ignored. -/
def ofText? (text : Text) : Option Color :=
  (ofName? (Unicode.lowercase (Unicode.trim text))).or (ofHex? (Unicode.trim text))

/-- The color that a text stands for; a fault shows the text as it was given. -/
def parse (text : Text) : Except Fault Color :=
  match ofText? text with
  | some color => .ok color
  | none => .error (.invalidColor text)

end Color

end Highlighter
