import Highlighter.Text

/-!
# Faults

Everything that can be wrong with an invocation, its settings or its files.

* `ReadError`: why the text of a file could not be had.
* `Fault`: a cause, with the words that are at fault or the reason that is given for it.
* `Fault.message`: the wording of each cause.
-/

namespace Highlighter

/-- Why the text of a file or stream could not be had. -/
inductive ReadError where
  | notFound
  | denied
  | notDirectory
  | isDirectory
  | nameTooLong
  | notUtf8
  | other (reason : String)
deriving DecidableEq, Repr

/-- The wording of a read error. -/
def ReadError.message : ReadError → String
  | notFound => "No such file or directory (os error 2)"
  | denied => "Permission denied (os error 13)"
  | notDirectory => "Not a directory (os error 20)"
  | isDirectory => "Is a directory (os error 21)"
  | nameTooLong => "File name too long (os error 36)"
  | notUtf8 => "stream did not contain valid UTF-8"
  | other reason => reason

/-- A field of a style that is on or off. -/
inductive Flag where
  | bold
  | italic
deriving DecidableEq, Repr

/-- The name of a flag in settings. -/
def Flag.name : Flag → String
  | bold => "bold"
  | italic => "italic"

/-- What went wrong. -/
inductive Fault where
  /-- A file or the standard input could not be read. -/
  | unreadable (error : ReadError)
  /-- The settings are no TOML document, for a reason that comes from decoding them. -/
  | notToml (reason : Text)
  /-- An escape sequence could not be written to a text. -/
  | notWritten (reason : Text)
  /-- The pattern that markup is found with could not be compiled. -/
  | notCompiled (reason : Text)
  | invalidColor (text : Text)
  | unknownTokenType (name : Text)
  | unknownMarkup (name : Text)
  | markupNotString
  | indentNotUnit
  | stylesNotTable
  | styleNotStyle (name : Text)
  | colorNotString (name : Text)
  | flagNotBoolean (name : Text) (flag : Flag)
  | caretMissing
  | caretInvalid (value : Text)
  | configPathMissing
  | unknownOption (option : Text)
  | extraFile
deriving DecidableEq, Repr

/-- The wording of a fault. -/
def Fault.message : Fault → Text
  | unreadable error => "I/O error: ".toList ++ error.message.toList
  | notToml reason => "Invalid config file: ".toList ++ reason
  | notWritten reason => "Formatting error: ".toList ++ reason
  | notCompiled reason => "cannot build strip pattern: ".toList ++ reason
  | invalidColor text => "Invalid color: ".toList ++ text
  | unknownTokenType name => "Unknown token type: ".toList ++ name
  | unknownMarkup name => "Unknown markup: ".toList ++ name
  | markupNotString => "markup must be a string".toList
  | indentNotUnit => "indent must be a string or a number of spaces".toList
  | stylesNotTable => "styles must be a table".toList
  | styleNotStyle name => "styles.".toList ++ name ++ " must be a color string or a table".toList
  | colorNotString name => "styles.".toList ++ name ++ ".color must be a string".toList
  | flagNotBoolean name flag =>
    "styles.".toList ++ name ++ ".".toList ++ flag.name.toList ++ " must be true or false".toList
  | caretMissing => "--token-at needs a caret offset".toList
  | caretInvalid value => "invalid caret offset: ".toList ++ value
  | configPathMissing => "--config needs a path".toList
  | unknownOption option => "unknown option: ".toList ++ option
  | extraFile => "only one input file is supported".toList

end Highlighter
