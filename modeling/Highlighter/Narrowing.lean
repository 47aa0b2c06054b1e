import Highlighter.Text

/-!
# Narrowing a word list

The longest word of a list that stands at the start of a text is found by reading on for as long
as some word of the list still begins with what has been read, and giving back what was read past
the last complete word.

* `tailsAfter`: the list after one more character, each word reduced to what is left of it.
* `narrow`: the run over a text, with the length of the word found and the characters read.
* `Narrowing.width`: where reading ends once what was read too much has been given back.
* `width_narrow_le`: it never ends past the end of the text.
-/

namespace Highlighter

/-- What is left of those words that begin with the character `c`. -/
def tailsAfter (c : Char) (words : List Text) : List Text :=
  words.filterMap fun
    | [] => none
    | d :: tail => if d = c then some tail else none

/-- The result of narrowing a word list along a text. -/
structure Narrowing where
  /-- The length of the longest word met in full, if any. -/
  longest : Option Nat
  /-- How many characters were read. -/
  read : Nat
deriving DecidableEq, Repr

namespace Narrowing

/-- The characters that stay read: the word, or everything when no word was met. -/
def width (n : Narrowing) : Nat := n.longest.getD n.read

end Narrowing

/-- Reads on along a text of which `read` characters are behind and `longest` is the longest word
met so far, with `tails` left of the words that begin with what was read. -/
def narrowFrom (continues : Char → Bool) (tails : List Text) (longest : Option Nat) (read : Nat) :
    Text → Narrowing
  | [] => ⟨longest, read⟩
  | c :: rest =>
    let tails := tailsAfter c tails
    let longest := if tails.any List.isEmpty then some (read + 1) else longest
    if tails.isEmpty || !(rest.head?.any continues) then ⟨longest, read + 1⟩
    else narrowFrom continues tails longest (read + 1) rest

/-- Reads along a text while some word begins with what was read. The first character is read
whatever it is, and each further one only if it satisfies `continues`. -/
def narrow (words : List Text) (continues : Char → Bool) (text : Text) : Narrowing :=
  narrowFrom continues words none 0 text

theorem width_narrowFrom_le (continues : Char → Bool) (tails : List Text) {longest : Option Nat}
    {read : Nat} (text : Text) (h : ∀ n ∈ longest, n ≤ read) :
    (narrowFrom continues tails longest read text).width ≤ read + text.length := by
  induction text generalizing tails longest read with
  | nil => cases longest <;> simp_all [narrowFrom, Narrowing.width]
  | cons c rest ih =>
    have h' : ∀ n ∈ (if (tailsAfter c tails).any List.isEmpty then some (read + 1) else longest),
        n ≤ read + 1 := by
      split
      · simp
      · exact fun n hn => Nat.le_succ_of_le (h n hn)
    unfold narrowFrom
    dsimp only
    split
    · revert h'
      generalize (if (tailsAfter c tails).any List.isEmpty then some (read + 1) else longest) = l
      intro h'
      cases l with
      | none => simp [Narrowing.width]
      | some n =>
        have := h' n rfl
        simp only [Narrowing.width, Option.getD_some, List.length_cons]
        omega
    · have := ih (tailsAfter c tails) h'
      simp only [List.length_cons]
      omega

/-- What stays read ends within the text. -/
theorem width_narrow_le (words : List Text) (continues : Char → Bool) (text : Text) :
    (narrow words continues text).width ≤ text.length := by
  simpa [narrow] using @width_narrowFrom_le continues words none 0 text (by simp)

end Highlighter
