import Highlighter.Lexicon
import Highlighter.Narrowing
import Highlighter.Rule.Basic

/-!
# Keywords, numbers and operators

Keywords and numbers start at a boundary: at the start of the text, after white space or after a
symbol. Operators are the longest ones that fit.
-/

namespace Highlighter.Rule

/-- A keyword: the longest one that stands here, and only if white space, a symbol or the end of
the text follows it. -/
def probeKeyword (previous : Option Char) (text : Text) : Probe :=
  if atBoundary previous then
    let found := narrow keywords isIdentifier text
    if found.longest.isSome && atBoundary (text.drop found.width).head? then .accept found.width
    else .reject found.width
  else .reject 0

/-- Whether a character belongs to numbers. -/
def isNumeric (c : Char) : Bool := c.isDigit || c = '.'

/-- A number: a run of ASCII digits and points. -/
def probeNumber (previous : Option Char) (text : Text) : Probe :=
  let width := (text.takeWhile isNumeric).length
  if atBoundary previous && 0 < width then .accept width else .reject 0

/-- Whether a run of operator characters may go on with the character `c`. -/
def extendsRun (c : Char) : Bool := isSymbol c || !isDelimiter c true true

/-- An operator: the longest one that stands here. -/
def probeSymbol (text : Text) : Probe :=
  let found := narrow operators extendsRun text
  if found.longest.isSome then .accept found.width else .reject found.width

/-! ## Reading ends within the text -/

theorem read_probeKeyword_le (previous : Option Char) (text : Text) :
    (probeKeyword previous text).read ≤ text.length := by
  have := width_narrow_le keywords isIdentifier text
  unfold probeKeyword
  dsimp only
  split
  · split <;> exact this
  · exact Nat.zero_le _

theorem read_probeNumber_le (previous : Option Char) (text : Text) :
    (probeNumber previous text).read ≤ text.length := by
  have := (List.takeWhile_prefix (l := text) isNumeric).length_le
  unfold probeNumber
  dsimp only
  split
  · exact this
  · exact Nat.zero_le _

theorem read_probeSymbol_le (text : Text) : (probeSymbol text).read ≤ text.length := by
  have := width_narrow_le operators extendsRun text
  unfold probeSymbol
  dsimp only
  split <;> exact this

end Highlighter.Rule
