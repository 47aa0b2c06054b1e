import Highlighter.Fault

/-!
# Contents of files

* `Contents`: what reading a file or stream gives.
* `readText`: the text that it holds.
-/

namespace Highlighter

/-- The bytes of a file or stream, or why they could not be had. -/
abbrev Contents := Except ReadError ByteArray

/-- The text that a file or stream holds, in UTF-8. -/
def readText : Contents → Except Fault Text
  | .error error => .error (.unreadable error)
  | .ok bytes =>
    match String.fromUTF8? bytes with
    | some text => .ok text.toList
    | none => .error (.unreadable .notUtf8)

end Highlighter
