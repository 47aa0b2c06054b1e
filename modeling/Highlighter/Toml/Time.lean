import Highlighter.Hex
import Highlighter.Toml.Reader

/-!
# TOML dates and times

A date, a time of day, or both, then possibly with an offset. Days exist in their month, and a
minute may have a leap second.
-/

namespace Highlighter.Toml

open Reader

/-- A number of exactly `count` digits, after the number `n` has been read. -/
def fixedDigits : Nat → Nat → Reader Nat
  | 0, n => pure n
  | count + 1, n => do
    let c ← satisfy Char.isDigit
    fixedDigits count (10 * n + (hexDigit? c).getD 0)

/-- A number of two digits that lies between two bounds. -/
def twoDigits (least greatest : Nat) : Reader Nat :=
  check (fun n => least ≤ n && n ≤ greatest) (fixedDigits 2 0)

/-- Whether a year has a 29th of February. -/
def isLeapYear (year : Nat) : Bool :=
  year % 4 = 0 && (year % 100 ≠ 0 || year % 400 = 0)

/-- The number of days of a month. -/
def daysIn (year month : Nat) : Nat :=
  if month = 2 then (if isLeapYear year then 29 else 28)
  else if month ∈ [4, 6, 9, 11] then 30
  else 31

/-- A date. -/
def date : Reader Unit := do
  let year ← fixedDigits 4 0
  let _ ← char '-'
  let month ← twoDigits 1 12
  let _ ← char '-'
  let _ ← twoDigits 1 (daysIn year month)

/-- A time of day, maybe with fractions of a second. -/
def timeOfDay : Reader Unit := do
  let _ ← twoDigits 0 23
  let _ ← char ':'
  let _ ← twoDigits 0 59
  let _ ← char ':'
  let _ ← twoDigits 0 60
  let _ ← optional (do let _ ← char '.'; takeWhile1 Char.isDigit)

/-- The offset of a time from universal time. -/
def offset : Reader Unit :=
  (do let _ ← oneOf ['Z', 'z'])
  <|> (do
    let _ ← oneOf ['+', '-']
    let _ ← twoDigits 0 23
    let _ ← char ':'
    let _ ← twoDigits 0 59)

/-- A date, maybe with a time of day and an offset after it. -/
def dateTime : Reader Unit := do
  date
  let _ ← optional (do
    let _ ← oneOf ['T', 't', ' ']
    timeOfDay
    optional offset)

/-- The literal of a date or time. -/
def time : Reader Text := literal (dateTime <|> timeOfDay)

/-- Whether a text is the literal of a date or time. -/
def isTimeLiteral (text : Text) : Bool := (time text).any (·.2.isEmpty)

end Highlighter.Toml
