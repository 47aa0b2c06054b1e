import Highlighter.Text

/-!
# Operators and keywords

The fixed words of the script language.
-/

namespace Highlighter

/-- The operators. -/
def operators : List Text :=
  ["\x7b", "\x7d", "[", "]", "(", ")", ".", ",", ";", ":", "::", "?", "??", "??=", "?.", "+", "-",
   "*", "/", "%", "&", "|", "^", "!", "~", "=", "<", ">", "++", "--", "&&", "||", "<<", ">>", "==",
   "!=", "<=", ">=", "->", "=>", "+=", "-=", "*=", "/=", "%=", "&=", "|=", "^=", "<<=",
   ">>="].map String.toList

/-- The keywords. -/
def keywords : List Text :=
  ["abstract", "as", "async", "await", "base", "bool", "break", "byte", "case", "catch", "char",
   "checked", "class", "const", "continue", "decimal", "default", "delegate", "do", "double",
   "dynamic", "else", "enum", "event", "explicit", "extern", "false", "finally", "fixed", "float",
   "for", "foreach", "goto", "if", "implicit", "in", "int", "interface", "internal", "is", "lock",
   "long", "nameof", "namespace", "new", "null", "object", "operator", "out", "override", "params",
   "partial", "private", "protected", "public", "readonly", "ref", "return", "sbyte", "sealed",
   "short", "sizeof", "stackalloc", "static", "string", "struct", "switch", "this", "throw", "true",
   "try", "typeof", "uint", "ulong", "unchecked", "unsafe", "ushort", "using", "var", "virtual",
   "void", "volatile", "when", "where", "while", "yield"].map String.toList

end Highlighter
