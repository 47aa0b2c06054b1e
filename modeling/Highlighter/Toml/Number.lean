import Highlighter.Hex
import Highlighter.Toml.Reader

/-!
# TOML numbers

Integers are decimal, or hexadecimal, octal or binary without a sign, and have 64 bits. Floats are
kept as they are written; the one thing asked of them is that a positive one stays below the
rounding bound of the largest finite double.
-/

namespace Highlighter.Toml

open Reader

/-- Digits, with single underscores allowed between them; the underscores are left out. -/
def digitsOf (isDigit : Char → Bool) : Reader Text := do
  let first ← satisfy isDigit
  let rest ← many (satisfy isDigit <|> (do let _ ← char '_'; satisfy isDigit))
  return first :: rest

/-- Decimal digits. -/
def decimalDigits : Reader Text := digitsOf Char.isDigit

/-- The number that digits stand for in a given base. -/
def valueOf (base : Nat) (digits : Text) : Nat :=
  digits.foldl (fun n c => base * n + (hexDigit? c).getD 0) 0

/-- A sign, if there is one: whether it is a minus. -/
def sign : Reader Bool := do
  let mark ← optional (oneOf ['+', '-'])
  return mark = some '-'

/-- Whether a number fits into 64 bits with a sign. -/
def isWord (n : Int) : Bool := Int64.minValue.toInt ≤ n && n ≤ Int64.maxValue.toInt

/-- A whole decimal number with its sign; it begins with zero only if it is zero. -/
def wholeNumber : Reader (Bool × Text) := do
  let negative ← sign
  let digits ← check (fun digits => digits.head? ≠ some '0' || digits.length = 1) decimalDigits
  return (negative, digits)

/-- An integer in a base other than ten, after the letters that announce the base. -/
def basedInteger (announce : String) (base : Nat) (isDigit : Char → Bool) : Reader Int := do
  word announce.toList
  let digits ← digitsOf isDigit
  return (valueOf base digits : Nat)

/-- A decimal integer. -/
def decimalInteger : Reader Int := do
  let (negative, digits) ← wholeNumber
  let n : Int := (valueOf 10 digits : Nat)
  return if negative then -n else n

/-- An integer of 64 bits. -/
def integer : Reader Int :=
  check isWord <|
    basedInteger "0x" 16 (fun c => (hexDigit? c).isSome)
    <|> basedInteger "0o" 8 (fun c => '0' ≤ c && c ≤ '7')
    <|> basedInteger "0b" 2 (fun c => c = '0' || c = '1')
    <|> decimalInteger

/-- The exponent of a float. -/
def exponent : Reader Int := do
  let _ ← oneOf ['e', 'E']
  let negative ← sign
  let digits ← decimalDigits
  let n : Int := (valueOf 10 digits : Nat)
  return if negative then -n else n

/-- The digits after the point of a float. -/
def fraction : Reader Text := do
  let _ ← char '.'
  decimalDigits

/-- The least number that rounds to infinity: half a unit in the last place above the largest
finite double. -/
def overflowBound : Nat := Nat.pow 2 1024 - Nat.pow 2 970

/-- Whether `mantissa` times ten to the power `exponent` rounds to infinity. The number of digits
decides unless it is close to that of the bound, which has 309 of them. -/
def overflows (mantissa : Nat) (exponent : Int) : Bool :=
  let size := (Nat.toDigits 10 mantissa).length + exponent
  if mantissa = 0 ∨ size < 309 then false
  else if 309 < size then true
  else if 0 ≤ exponent then overflowBound ≤ mantissa * Nat.pow 10 exponent.toNat
  else overflowBound * Nat.pow 10 (-exponent).toNat ≤ mantissa

/-- A finite float: a whole number with a fraction, an exponent or both. -/
def finiteFloat : Reader Unit := do
  let (negative, whole) ← wholeNumber
  let (digits, power) ←
    (do let power ← exponent; return ([], power))
    <|> (do
      let digits ← fraction
      let power ← optional exponent
      return (digits, power.getD 0))
  let mantissa := valueOf 10 (whole ++ digits)
  if !negative && overflows mantissa (power - digits.length) then failure

/-- Infinity, or no number at all. -/
def specialFloat : Reader Unit := do
  let _ ← sign
  word "inf".toList <|> word "nan".toList

/-- The literal of a float. -/
def float : Reader Text := literal (finiteFloat <|> specialFloat)

end Highlighter.Toml
