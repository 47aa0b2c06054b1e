import Highlighter.Contents
import Highlighter.Theme
import Highlighter.Toml.Value

/-!
# Settings

Settings choose a markup, the unit of indentation and the styles of token types. They are kept in
a TOML document; what it does not mention keeps its default.

* `Config.ofTable`: the settings that a table stands for, or the first fault in it.
* `Config.parse`, `Config.ofFile`: the settings in a document and in a file.
* `Config.home`: the settings of the home directory, which never fail.
-/

namespace Highlighter

/-- The settings. -/
structure Config where
  markup : Markup
  indent : Text
  styles : StyleMap

namespace Config

open Toml (Table Value)

/-- The settings that hold where nothing else is said. -/
def default : Config := ⟨.richText, List.replicate 4 ' ', .empty⟩

/-- Whether two settings are the same. -/
def same (a b : Config) : Bool :=
  a.markup = b.markup && a.indent = b.indent
    && TokenType.all.all fun type => a.styles type = b.styles type

/-! ## Reading a table -/

/-- A fault, unless a value is there. -/
def orFault {α : Type} (fault : Fault) : Option α → Except Fault α
  | some value => .ok value
  | none => .error fault

/-- The markup under a key, if there is one. -/
def readMarkup (table : Table) : Except Fault Markup :=
  match table.get? "markup".toList with
  | none => .ok default.markup
  | some value => do Markup.parse (← orFault .markupNotString value.string?)

/-- The unit of indentation: a text, or a number of spaces between 1 and 16. -/
def readIndent (table : Table) : Except Fault Text :=
  match table.get? "indent".toList with
  | none => .ok default.indent
  | some (.string unit) => .ok unit
  | some (.integer width) => .ok (List.replicate (max 1 (min width 16)).toNat ' ')
  | some _ => .error .indentNotUnit

/-- The color among the fields of a style, or the one that the style has without it. -/
def readColor (name : Text) (fields : Table) (color : Color) : Except Fault Color :=
  match fields.get? "color".toList with
  | none => .ok color
  | some value => do Color.parse (← orFault (.colorNotString name) value.string?)

/-- A flag among the fields of a style, or the value that it has without it. -/
def readFlag (name : Text) (fields : Table) (flag : Flag) (value : Bool) : Except Fault Bool :=
  match fields.get? flag.name.toList with
  | none => .ok value
  | some value => orFault (.flagNotBoolean name flag) value.boolean?

/-- A style: a color, or the fields that differ from the style `base`. -/
def readStyle (name : Text) (value : Value) (base : Style) : Except Fault Style :=
  match value with
  | .string text => do return { base with foreground := ← Color.parse text }
  | .table fields => do
    let foreground ← readColor name fields base.foreground
    let bold ← readFlag name fields .bold base.bold
    let italic ← readFlag name fields .italic base.italic
    return ⟨foreground, bold, italic⟩
  | _ => .error (.styleNotStyle name)

/-- The styles with one more entry. It starts from the default style of its type. -/
def addStyle (styles : StyleMap) : Text × Value → Except Fault StyleMap
  | (name, value) => do
    let type ← orFault (.unknownTokenType name) (TokenType.ofName? name)
    return styles.insert type (← readStyle name value type.defaultStyle)

/-- The styles of token types. Entries are read in the order of their names, and a later entry for
a type replaces an earlier one. -/
def readStyles (table : Table) : Except Fault StyleMap :=
  match table.get? "styles".toList with
  | none => .ok default.styles
  | some value => do (← orFault .stylesNotTable value.table?).foldlM addStyle .empty

/-- The settings that a table stands for, or the first fault: in the markup, in the indentation,
then in the styles. Other keys are ignored. -/
def ofTable (table : Table) : Except Fault Config := do
  let markup ← readMarkup table
  let indent ← readIndent table
  let styles ← readStyles table
  return ⟨markup, indent, styles⟩

/-! ## Documents and files -/

/-- The settings in a document, which is decoded in a given way. -/
def parse (decode : Toml.Decoder) (text : Text) : Except Fault Config := do
  ofTable (← (decode text).mapError .notToml)

/-- The settings in a document are those that its table stands for. -/
theorem parse_of_decode {decode : Toml.Decoder} {text : Text} {table : Table}
    (h : decode text = .ok table) : parse decode text = ofTable table := by
  unfold parse
  rw [h]
  rfl

/-- The name of the file in the home directory that settings are kept in. -/
def fileName : String := ".console-lexer.toml"

/-- The path of the file with the settings of a home directory. -/
def path (home : String) : String :=
  if home.isEmpty || home.toList.getLast? = some '/' then home ++ fileName
  else home ++ "/" ++ fileName

/-- The settings in a file. -/
def ofFile (decode : Toml.Decoder) (file : Contents) : Except Fault Config := do
  parse decode (← readText file)

/-- The settings of the home directory, given the file they are kept in if there is a home
directory. Settings with a fault count as none. -/
def home (decode : Toml.Decoder) (file : Option Contents) : Config :=
  match file with
  | none => default
  | some contents => (ofFile decode contents).toOption.getD default

/-! ## Highlighting -/

/-- The theme that the settings choose. -/
def theme (config : Config) (colors : ColorOutput) : Theme :=
  .ofStyles colors config.markup config.styles

end Config

end Highlighter
