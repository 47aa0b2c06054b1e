import Highlighter.Proofs.Marks

/-!
# Displays

What a display makes of rendered text, told without regard to how it is written.

* `Display`, `Display.show?`: a display goes through the output, changes its state at markup that it
  knows, shows the other characters, and stops at markup that it does not know.
* `richDisplay`: a display of rich text, with a stack of open tags.
* `terminal`: a terminal, with a pen.
* `Plays`: what a display makes of one piece of output, whatever comes after it.
-/

namespace Highlighter

/-- How a character is shown. -/
structure Look where
  color : Option Rgb
  bold : Bool
  italic : Bool
deriving DecidableEq, Repr

namespace Look

/-- The look of characters outside all markup. -/
def plain : Look := ⟨none, false, false⟩

/-- A look with one more trait. -/
def set (look : Look) : Trait → Look
  | .color mix => { look with color := some mix }
  | .bold => { look with bold := true }
  | .italic => { look with italic := true }

end Look

/-- How a style is meant to look. -/
def Style.look (style : Style) : Look := ⟨style.foreground.rgb, style.bold, style.italic⟩

/-- The traits of a style, set one after the other, make its look. -/
theorem Style.foldl_set_traits (style : Style) :
    style.traits.foldl Look.set .plain = style.look := by
  obtain ⟨foreground, bold, italic⟩ := style
  rw [traits, look]
  cases foreground.rgb <;> cases bold <;> cases italic <;> rfl

/-! ## Displays -/

/-- A character as it is shown. -/
structure Cell where
  char : Char
  look : Look
deriving DecidableEq, Repr

/-- What a display takes the next characters for. -/
inductive Reading (State : Type) where
  | shown
  | control (next : State) (width : Nat)
  | unknown

/-- A display: how its state changes at markup, and how it shows characters in a state. -/
structure Display (State : Type) where
  initial : State
  look : State → Look
  read : State → Text → Reading State

namespace Display

variable {State : Type}

/-- The characters that a display shows and the state that it ends in, if it knows all markup. The
next `skip` characters belong to markup that has been read. -/
def play (display : Display State) (state : State) : Nat → Text → Option (List Cell × State)
  | 0, [] => some ([], state)
  | _ + 1, [] => none
  | skip + 1, _ :: rest => display.play state skip rest
  | 0, c :: rest =>
    match display.read state (c :: rest) with
    | .shown => (display.play state 0 rest).map (Prod.map (⟨c, display.look state⟩ :: ·) id)
    | .control next width => display.play next (width - 1) rest
    | .unknown => none

/-- The characters that a display shows, if it knows all markup and ends in its initial state. -/
def show? [DecidableEq State] (display : Display State) (output : Text) : Option (List Cell) :=
  match display.play display.initial 0 output with
  | some (cells, state) => if state = display.initial then some cells else none
  | none => none

end Display

/-- The characters of a text before the first `last`. -/
def before? (last : Char) (text : Text) : Option Text :=
  if last ∈ text then some (text.takeWhile (· ≠ last)) else none

/-! ## Rich text -/

/-- The name of the tag of a trait. -/
def Trait.tagName : Trait → Text
  | color _ => "color".toList
  | bold => "b".toList
  | italic => "i".toList

/-- The trait that a tag opens. -/
def Trait.ofTag? : Text → Option Trait
  | ['b'] => some .bold
  | ['i'] => some .italic
  | 'c' :: 'o' :: 'l' :: 'o' :: 'r' :: '=' :: '#' :: digits => (Rgb.ofHex? digits).map .color
  | _ => none

/-- The traits of the tags that are open, the innermost first, and whether a stretch in which only
its end is markup has begun. -/
structure RichState where
  traits : List Trait
  literal : Bool
deriving DecidableEq, Repr

/-- What a tag does, given the text between its brackets. Only the innermost tag may be closed. -/
def RichState.enter? (traits : List Trait) : Text → Option RichState
  | '/' :: name =>
    match traits with
    | trait :: outer => if name = trait.tagName then some ⟨outer, false⟩ else none
    | [] => none
  | name =>
    if name = "noparse".toList then some ⟨traits, true⟩
    else (Trait.ofTag? name).map fun trait => ⟨trait :: traits, false⟩

/-- What a display of rich text takes the next characters for. -/
def RichState.read (state : RichState) (text : Text) : Reading RichState :=
  if state.literal then
    if "</noparse>".toList <+: text then .control ⟨state.traits, false⟩ 10 else .shown
  else
    match text with
    | '<' :: rest =>
      match before? '>' rest with
      | some name =>
        match enter? state.traits name with
        | some next => .control next (name.length + 2)
        | none => .unknown
      | none => .unknown
    | _ => .shown

/-- A tag is read up to its closing bracket. -/
theorem RichState.read_tag {traits : List Trait} {name rest : Text} {next : RichState}
    (hname : before? '>' rest = some name) (hnext : enter? traits name = some next) :
    read ⟨traits, false⟩ ('<' :: rest) = .control next (name.length + 2) := by
  unfold read
  rw [if_neg Bool.false_ne_true]
  simp only [hname, hnext]

theorem RichState.read_char {c : Char} (hc : c ≠ '<') (traits : List Trait) (rest : Text) :
    read ⟨traits, false⟩ (c :: rest) = .shown := by
  unfold read
  rw [if_neg Bool.false_ne_true]
  split
  · rename_i heq
    exact absurd (List.cons.inj heq).1 hc
  · rfl

theorem RichState.read_literal (traits : List Trait) (text : Text) :
    read ⟨traits, true⟩ text =
      if "</noparse>".toList <+: text then .control ⟨traits, false⟩ 10 else .shown := rfl

/-- A display of rich text. Inner tags count before outer ones. -/
def richDisplay : Display RichState where
  initial := ⟨[], false⟩
  look state := state.traits.foldr (fun trait look => look.set trait) .plain
  read := RichState.read

/-- A tag may not be left open, closed out of turn or unknown. -/
example :
    richDisplay.show? "<b>x".toList = none ∧ richDisplay.show? "<b><i>x</b></i>".toList = none ∧
      richDisplay.show? "<u>x</u>".toList = none := by decide

/-! ## Terminals -/

/-- The number that decimal digits stand for. -/
def decimal? (digits : Text) : Option Nat :=
  if digits ≠ [] ∧ digits.all Char.isDigit then some (Nat.ofDigitChars 10 digits 0) else none

/-- The pen after an escape sequence, given its parameters. -/
def Look.select? (pen : Look) : List Nat → Option Look
  | [38, 2, red, green, blue] =>
    if red < 256 ∧ green < 256 ∧ blue < 256 then
      some (pen.set (.color ⟨UInt8.ofNat red, UInt8.ofNat green, UInt8.ofNat blue⟩))
    else none
  | [1] => some (pen.set .bold)
  | [3] => some (pen.set .italic)
  | [0] => some .plain
  | _ => none

/-- What a terminal takes the next characters for. -/
def Look.read (pen : Look) : Text → Reading Look
  | '\x1b' :: '[' :: rest =>
    match before? 'm' rest with
    | some parameters =>
      match ((parameters.splitOn ';').mapM decimal?).bind pen.select? with
      | some next => .control next (parameters.length + 3)
      | none => .unknown
    | none => .unknown
  | '\x1b' :: _ => .unknown
  | _ => .shown

/-- An escape sequence is read up to the letter that ends it. -/
theorem Look.read_escapeSequence {pen next : Look} {parameters rest : Text} {numbers : List Nat}
    (hparameters : before? 'm' rest = some parameters)
    (hnumbers : (parameters.splitOn ';').mapM decimal? = some numbers)
    (hnext : pen.select? numbers = some next) :
    pen.read ('\x1b' :: '[' :: rest) = .control next (parameters.length + 3) := by
  unfold read
  simp only [hparameters, hnumbers, Option.bind_some, hnext]

theorem Look.read_char {c : Char} (hc : c ≠ '\x1b') (pen : Look) (rest : Text) :
    pen.read (c :: rest) = .shown := by
  unfold read
  split
  · rename_i heq
    exact absurd (List.cons.inj heq).1 hc
  · rename_i heq
    exact absurd (List.cons.inj heq).1 hc
  · rfl

/-- A terminal, with the look of what it shows next as its state. -/
def terminal : Display Look where
  initial := .plain
  look pen := pen
  read := Look.read

namespace Markup

/-- What the display of a markup shows. -/
def show? : Markup → Text → Option (List Cell)
  | richText => richDisplay.show?
  | ansi => terminal.show?

/-- The characters that stand for a character of the source on the display of a markup. -/
def shown : Markup → Char → Text
  | richText, c => [c]
  | ansi, c =>
    if c = '\x1b' then ['\u241b', '['] else if c = '\u241b' then ['\u241b', '\u241b'] else [c]

/-- A character of the source as it is to be shown with a look. -/
def cells (markup : Markup) (c : Char) (look : Look) : List Cell :=
  (markup.shown c).map fun d => ⟨d, look⟩

end Markup

/-! ## Pieces of output -/

section Plays

variable {State : Type} {display : Display State} {before between after : State}

/-- A piece of output leads a display from one state to another and shows some characters, whatever
comes after the piece. -/
def Plays (display : Display State) (before : State) (output : Text) (cells : List Cell)
    (after : State) : Prop :=
  ∀ rest, display.play before 0 (output ++ rest) =
    (display.play after 0 rest).map (Prod.map (cells ++ ·) id)

namespace Plays

theorem nil (display : Display State) (state : State) : Plays display state [] [] state := by
  intro rest
  rw [List.nil_append]
  cases display.play state 0 rest <;> rfl

theorem append {output more : Text} {cells others : List Cell}
    (h : Plays display before output cells between) (h' : Plays display between more others after) :
    Plays display before (output ++ more) (cells ++ others) after := by
  intro rest
  rw [List.append_assoc, h, h', Option.map_map]
  congr 1
  funext ⟨shown, state⟩
  simp [List.append_assoc]

/-- Pieces that each lead back to the same state. -/
theorem flatMap {α : Type} {state : State} {output : α → Text} {cells : α → List Cell}
    {all : List α} (h : ∀ a ∈ all, Plays display state (output a) (cells a) state) :
    Plays display state (all.flatMap output) (all.flatMap cells) state := by
  induction all with
  | nil => exact nil display state
  | cons a all ih =>
    rw [List.flatMap_cons, List.flatMap_cons]
    exact (h a List.mem_cons_self).append (ih fun b hb => h b (List.mem_cons_of_mem a hb))

/-- A character that the display shows. -/
theorem char {state : State} {c : Char} (h : ∀ rest, display.read state (c :: rest) = .shown) :
    Plays display state [c] [⟨c, display.look state⟩] state := by
  intro rest
  rw [List.singleton_append, Display.play, h]
  rfl

/-- Markup that the display knows. -/
theorem control {output : Text} (hne : output ≠ [])
    (h : ∀ rest, display.read before (output ++ rest) = .control after output.length) :
    Plays display before output [] after := by
  have hskip : ∀ (skipped rest : Text),
      display.play after skipped.length (skipped ++ rest) = display.play after 0 rest := by
    intro skipped rest
    induction skipped with
    | nil => rfl
    | cons c skipped ih => exact ih
  rcases output with _ | ⟨c, output⟩
  · exact absurd rfl hne
  intro rest
  have hread := h rest
  rw [List.cons_append] at hread ⊢
  rw [Display.play, hread]
  show display.play after (output.length + 1 - 1) (output ++ rest) = _
  rw [Nat.add_sub_cancel, hskip]
  cases display.play after 0 rest <;> rfl

/-- A whole output that leads back to the initial state. -/
theorem show? [DecidableEq State] {output : Text} {cells : List Cell}
    (h : Plays display display.initial output cells display.initial) :
    display.show? output = some cells := by
  have hplay := h []
  rw [List.append_nil, Display.play, Option.map_some, Prod.map_apply, List.append_nil] at hplay
  rw [Display.show?, hplay]
  exact if_pos rfl

end Plays

end Plays

end Highlighter
