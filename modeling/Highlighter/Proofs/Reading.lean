import Highlighter.Proofs.Verbatim

/-!
# Rules that read one character after the other

A rule can be run on a cursor that only reads, looks ahead and gives back. Wherever such a cursor
stands, it ends where the probe of the rule says, so trying a rule and settling the cursor is all or
nothing.

* `Cursor.readOpener`, `Cursor.readWhile`, `Cursor.readBlock`, `Cursor.readQuoted`: the loops that
  openers, runs and bodies are read with.
* `Cursor.tryOpened_eq`: an opener and a body are read as one probe.
* `Cursor.readWords`, `Cursor.tryWords`: word lists, tested anew after every character.
* `Cursor.readWords_eq`: which words are still possible is told by what was read.
* `Cursor.tryRule`, `Cursor.tryRule_eq_probe`: each rule reads as far as its probe says.
* `claim_all_or_nothing`: a rule commits exactly to what its probe accepts, and leaves no other
  trace.
-/

namespace Highlighter

open Rule

namespace Cursor

variable {c : Cursor}

/-! ## Looking ahead -/

/-- A character that may be read is the one that is read. -/
theorem of_peek_any {test : Char → Bool} (h : c.peek.any test) :
    ∃ char, test char ∧ c.ahead = char :: (c.advance 1).ahead ∧ c.readNext.2 = c.advance 1 := by
  rw [peek] at h
  cases hahead : c.ahead with
  | nil =>
    rw [hahead] at h
    cases h
  | cons char rest =>
    rw [hahead] at h
    rw [readNext_of_cons hahead, ahead_advance_one hahead]
    exact ⟨char, h, rfl, rfl⟩

/-- Reading on where something may be read comes closer to the end. -/
theorem length_readNext_lt {test : Char → Bool} (h : c.peek.any test) :
    c.readNext.2.ahead.length < c.ahead.length := by
  obtain ⟨char, -, hahead, hnext⟩ := of_peek_any h
  rw [hnext, hahead]
  exact Nat.lt_succ_self _

/-! ## Openers and bodies -/

/-- Reads the characters of an opener, up to the first one that is missing. -/
def readOpener : Text → Cursor → Bool × Cursor
  | [], c => (true, c)
  | expected :: more, c =>
    match c.readNext with
    | (some char, after) => if char = expected then readOpener more after else (false, after)
    | (none, after) => (false, after)

/-- Reads on while a test holds, and counts. -/
def readWhile (test : Char → Bool) (count : Nat) (c : Cursor) : Nat × Cursor :=
  if _hgo : c.peek.any test then readWhile test (count + 1) c.readNext.2 else (count, c)
termination_by c.ahead.length
decreasing_by exact length_readNext_lt _hgo

/-- Reads up to the first slash behind a star, where `last` is the character read before, if it
counts. -/
def readBlock (last : Option Char) (c : Cursor) : Cursor :=
  match _hread : c.readNext with
  | (none, after) => after
  | (some char, after) =>
    if last = some '*' ∧ char = '/' then after else readBlock (some char) after
termination_by c.ahead.length
decreasing_by
  rw [(of_readNext_eq_some _hread).1]
  exact Nat.lt_succ_self _

/-- Reads up to the first quote that does not follow a backslash, where `last` is the character
read before. -/
def readQuoted (quote last : Char) (c : Cursor) : Cursor :=
  match _hread : c.readNext with
  | (none, after) => after
  | (some char, after) =>
    if char = quote ∧ last ≠ '\\' then after else readQuoted quote char after
termination_by c.ahead.length
decreasing_by
  rw [(of_readNext_eq_some _hread).1]
  exact Nat.lt_succ_self _

/-- Reads an opener and, if it is complete, a body. -/
def tryOpened (opener : Text) (body : Cursor → Cursor) (c : Cursor) : Bool × Cursor :=
  match c.readOpener opener with
  | (true, after) => (true, body after)
  | (false, after) => (false, after)

/-- How many characters of a text are read to tell whether it begins with an opener. -/
def openerRead : Text → Text → Nat
  | [], _ => 0
  | _ :: _, [] => 0
  | expected :: more, char :: rest => if char = expected then openerRead more rest + 1 else 1

/-- The outcome where a token has an opener, and a body as wide as `width` says. -/
def probeOpened (opener : Text) (width : Text → Nat) (text : Text) : Probe :=
  if opener.isPrefixOf text then .accept (opener.length + width (text.drop opener.length))
  else .reject (openerRead opener text)

theorem readOpener_eq (opener : Text) (c : Cursor) :
    c.readOpener opener = (opener.isPrefixOf c.ahead, c.advance (openerRead opener c.ahead)) := by
  induction opener generalizing c with
  | nil =>
    rw [readOpener, List.isPrefixOf, openerRead]
    rfl
  | cons expected more ih =>
    rw [readOpener]
    cases hahead : c.ahead with
    | nil =>
      rw [readNext_of_nil hahead]
      rfl
    | cons char rest =>
      rw [readNext_of_cons hahead]
      dsimp only
      by_cases hchar : char = expected
      · rw [if_pos hchar, ih, ahead_advance_one hahead, advance_advance, openerRead, if_pos hchar,
          hchar, List.isPrefixOf, beq_self_eq_true, Bool.true_and, Nat.add_comm]
      · rw [if_neg hchar, openerRead, if_neg hchar, List.isPrefixOf,
          beq_false_of_ne (Ne.symm hchar), Bool.false_and]

theorem openerRead_of_prefix {opener text : Text} (h : opener.isPrefixOf text) :
    openerRead opener text = opener.length := by
  induction opener generalizing text with
  | nil => rfl
  | cons expected more ih =>
    obtain ⟨rest, rfl⟩ := List.isPrefixOf_iff_prefix.mp h
    rw [List.cons_append, openerRead, if_pos rfl,
      ih (List.isPrefixOf_iff_prefix.mpr (List.prefix_append _ _)), List.length_cons]

theorem readWhile_eq (test : Char → Bool) (count : Nat) (c : Cursor) :
    c.readWhile test count =
      (count + (c.ahead.takeWhile test).length, c.advance (c.ahead.takeWhile test).length) := by
  fun_induction readWhile test count c with
  | case1 count c hgo ih =>
    obtain ⟨char, htest, hahead, hnext⟩ := of_peek_any hgo
    rw [ih, hnext, advance_advance, hahead, List.takeWhile_cons_of_pos htest, List.length_cons,
      Nat.add_assoc, Nat.add_comm 1]
  | case2 count c hstop =>
    rw [peek] at hstop
    cases hahead : c.ahead with
    | nil => rfl
    | cons char rest =>
      rw [hahead] at hstop
      have htest : ¬ test char = true := hstop
      rw [List.takeWhile_cons_of_neg htest]
      rfl

theorem blockWidth_pos (char : Char) (rest : Text) : 0 < blockWidth (char :: rest) := by
  rw [blockWidth_cons]
  split <;> exact Nat.succ_pos _

/-- A star that was read before counts as one in front of what lies ahead. -/
theorem readBlock_eq (last : Option Char) (c : Cursor) :
    c.readBlock last =
      c.advance
        (if last = some '*' then blockWidth ('*' :: c.ahead) - 1 else blockWidth c.ahead) := by
  fun_induction readBlock last c with
  | case1 last c after hread =>
    obtain ⟨hahead, rfl⟩ := of_readNext_eq_none hread
    rw [hahead]
    split <;> rfl
  | case2 last c char after hread hclose =>
    obtain ⟨hahead, rfl⟩ := of_readNext_eq_some hread
    rw [if_pos hclose.1, hahead, hclose.2]
    rfl
  | case3 last c char after hread hopen ih =>
    obtain ⟨hahead, rfl⟩ := of_readNext_eq_some hread
    have hlast : (if last = some '*' then blockWidth ('*' :: c.ahead) - 1 else blockWidth c.ahead) =
        blockWidth c.ahead := by
      split
      · rename_i hstar
        rw [blockWidth_cons, if_neg, Nat.add_sub_cancel]
        rintro ⟨-, hslash⟩
        rw [hahead] at hslash
        exact hopen ⟨hstar, Option.some.inj hslash⟩
      · rfl
    have hfirst : 1 + (if some char = some '*' then blockWidth ('*' :: (c.advance 1).ahead) - 1
        else blockWidth (c.advance 1).ahead) = blockWidth c.ahead := by
      rw [hahead]
      split
      · rename_i hstar
        rw [Option.some.inj hstar]
        exact Nat.add_sub_cancel' (blockWidth_pos _ _)
      · rename_i hstar
        rw [blockWidth_cons, if_neg fun h => hstar (congrArg some h.1), Nat.add_comm]
    rw [ih, advance_advance, hfirst, hlast]

theorem readQuoted_eq (quote last : Char) (c : Cursor) :
    c.readQuoted quote last = c.advance (quotedWidth quote last c.ahead) := by
  fun_induction readQuoted quote last c with
  | case1 last c after hread =>
    obtain ⟨hahead, rfl⟩ := of_readNext_eq_none hread
    rw [hahead]
    rfl
  | case2 last c char after hread hclose =>
    obtain ⟨hahead, rfl⟩ := of_readNext_eq_some hread
    rw [hahead, quotedWidth, if_pos hclose]
  | case3 last c char after hread hopen ih =>
    obtain ⟨hahead, rfl⟩ := of_readNext_eq_some hread
    rw [ih, advance_advance, hahead, quotedWidth, if_neg hopen, Nat.add_comm]

/-- **An opener and a body are read as one probe.** -/
theorem tryOpened_eq {opener : Text} {body : Cursor → Cursor} {width : Text → Nat}
    (hbody : ∀ c, body c = c.advance (width c.ahead)) (c : Cursor) :
    c.tryOpened opener body =
      ((probeOpened opener width c.ahead).accepted,
        c.advance (probeOpened opener width c.ahead).read) := by
  rw [tryOpened, readOpener_eq, probeOpened]
  cases hopener : opener.isPrefixOf c.ahead with
  | true =>
    rw [if_pos rfl, openerRead_of_prefix hopener]
    dsimp only
    rw [hbody, ahead_advance, advance_advance]
    rfl
  | false => rfl

/-! ## Comments and literals -/

/-- An opener of two characters is read in full to see that the second one is another. -/
theorem probeOpened_of_second {first second char : Char} (width : Text → Nat) (rest : Text)
    (h : char ≠ second) :
    probeOpened [first, second] width (first :: char :: rest) = .reject 2 := by
  rw [probeOpened, if_neg, openerRead, if_pos rfl, openerRead, if_neg h]
  rw [List.isPrefixOf_iff_prefix, List.cons_prefix_cons, List.cons_prefix_cons]
  exact fun hprefix => h hprefix.2.1.symm

/-- One character is read where it is another one, or the last one. -/
theorem probeOpened_of_first {first second char : Char} (width : Text → Nat) {rest : Text}
    (h : ∀ head tail, char = first → rest = head :: tail → False) :
    probeOpened [first, second] width (char :: rest) = .reject 1 := by
  rcases rest with _ | ⟨head, tail⟩
  · rw [probeOpened, if_neg, openerRead]
    · split <;> rfl
    · rw [List.isPrefixOf_iff_prefix]
      exact fun hprefix => absurd hprefix.length_le (Nat.not_succ_le_self 1)
  · have hfirst : char ≠ first := fun heq => h head tail heq rfl
    rw [probeOpened, if_neg, openerRead, if_neg hfirst]
    rw [List.isPrefixOf_iff_prefix, List.cons_prefix_cons]
    exact fun hprefix => hfirst hprefix.1.symm

theorem probeLineComment_eq (text : Text) :
    probeLineComment text =
      probeOpened ['/', '/'] (fun rest => (rest.takeWhile (!isNewline ·)).length) text := by
  fun_cases probeLineComment text with
  | case1 rest => rfl
  | case2 char rest hchar => exact (probeOpened_of_second _ rest hchar).symm
  | case3 char rest _ hone => exact (probeOpened_of_first _ hone).symm
  | case4 => rfl

theorem probeBlockComment_eq (text : Text) :
    probeBlockComment text = probeOpened ['/', '*'] blockWidth text := by
  fun_cases probeBlockComment text with
  | case1 rest => rfl
  | case2 char rest hchar => exact (probeOpened_of_second _ rest hchar).symm
  | case3 char rest _ hone => exact (probeOpened_of_first _ hone).symm
  | case4 => rfl

theorem probeQuoted_eq (quote : Char) (text : Text) :
    probeQuoted quote text = probeOpened [quote] (quotedWidth quote quote) text := by
  rw [probeOpened]
  fun_cases probeQuoted quote text with
  | case1 => rfl
  | case2 rest => simp [List.isPrefixOf]
  | case3 char rest hchar => simp [List.isPrefixOf, openerRead, hchar, Ne.symm hchar]

/-! ## Word lists -/

/-- Reads on along a word list, from a place where `read` characters from `start` on are behind and
`longest` is the longest word met before. All words are compared with what was read, and reading
ends where none begins with it or where the next character may not be read. -/
def readWords (words : List Text) (continues : Char → Bool) (start read : Nat)
    (longest : Option Nat) (c : Cursor) : Option Nat × Nat × Cursor :=
  let behind := c.slice start (start + read)
  let longest := if words.contains behind then some read else longest
  if _hgo : words.any behind.isPrefixOf ∧ c.peek.any continues then
    readWords words continues start (read + 1) longest c.readNext.2
  else (longest, read, c)
termination_by c.ahead.length
decreasing_by exact length_readNext_lt _hgo.2

/-- Reads the longest word of a list, and gives back what was read past it. -/
def tryWords (words : List Text) (continues : Char → Bool) (c : Cursor) : Option Nat × Cursor :=
  match c.readNext with
  | (none, after) => (none, after)
  | (some _, after) =>
    match after.readWords words continues c.speculative 1 none with
    | (some longest, read, after) => (some longest, after.rollbackBy (read - longest))
    | (none, _, after) => (none, after)

/-- What was read from some place on grows with every character. -/
theorem slice_advance_one {char : Char} {rest : Text} {start read : Nat}
    (hspeculative : c.speculative = start + read) (h : c.ahead = char :: rest) :
    (c.advance 1).slice start (start + (read + 1)) = c.slice start (start + read) ++ [char] := by
  have hchar : (c.source.drop start)[read]? = some char := by
    rw [List.getElem?_drop, ← hspeculative, ← List.head?_drop]
    exact congrArg List.head? h
  rw [slice, slice, Text.slice_add, Text.slice_add, List.take_add_one]
  exact congrArg (_ ++ ·) (congrArg Option.toList hchar)

/-- A word was read in full if nothing is left of one. -/
theorem contains_eq_any_isEmpty {words tails : List Text} {behind : Text}
    (htails : ∀ tail, tail ∈ tails ↔ behind ++ tail ∈ words) :
    words.contains behind = tails.any List.isEmpty := by
  rw [Bool.eq_iff_iff, List.contains_iff_mem, List.any_eq_true]
  constructor
  · exact fun hword => ⟨[], (htails []).mpr (by rwa [List.append_nil]), rfl⟩
  · rintro ⟨tail, htail, hnil⟩
    obtain rfl := List.isEmpty_iff.mp hnil
    rw [← List.append_nil behind]
    exact (htails []).mp htail

/-- A word begins with what was read if something is left of one. -/
theorem any_isPrefixOf_eq_not_isEmpty {words tails : List Text} {behind : Text}
    (htails : ∀ tail, tail ∈ tails ↔ behind ++ tail ∈ words) :
    words.any behind.isPrefixOf = !tails.isEmpty := by
  rw [Bool.eq_iff_iff, List.any_eq_true, Bool.not_eq_true', List.isEmpty_eq_false_iff_exists_mem]
  constructor
  · rintro ⟨word, hword, hprefix⟩
    obtain ⟨tail, rfl⟩ := List.isPrefixOf_iff_prefix.mp hprefix
    exact ⟨tail, (htails tail).mpr hword⟩
  · rintro ⟨tail, htail⟩
    exact ⟨_, (htails tail).mp htail, List.isPrefixOf_iff_prefix.mpr (List.prefix_append _ _)⟩

/-- A step of narrowing is one look at all words, if it has kept the rests of those that begin with
what was read. -/
theorem narrowFrom_cons_of_tails {words tails : List Text} {behind rest : Text} {char : Char}
    (htails : ∀ tail, tail ∈ tailsAfter char tails ↔ behind ++ tail ∈ words)
    (continues : Char → Bool) (longest : Option Nat) (read : Nat) :
    narrowFrom continues tails longest read (char :: rest) =
      let longest := if words.contains behind then some (read + 1) else longest
      if words.any behind.isPrefixOf ∧ rest.head?.any continues then
        narrowFrom continues (tailsAfter char tails) longest (read + 1) rest
      else ⟨longest, read + 1⟩ := by
  rw [narrowFrom, contains_eq_any_isEmpty htails, any_isPrefixOf_eq_not_isEmpty htails]
  cases (tailsAfter char tails).isEmpty with
  | true => rfl
  | false => cases rest.head?.any continues <;> rfl

/-- **What was read tells which words are still possible.** Those that begin with it are the ones of
which narrowing has kept the rest, so comparing all words anew comes to the same. -/
theorem readWords_eq {words tails : List Text} {continues : Char → Bool} {start read : Nat}
    {char : Char} {longest : Option Nat} (hspeculative : c.speculative = start + (read + 1))
    (htails : ∀ tail, tail ∈ tailsAfter char tails ↔
      c.slice start (start + (read + 1)) ++ tail ∈ words) :
    c.readWords words continues start (read + 1) longest =
      let found := narrowFrom continues tails longest read (char :: c.ahead)
      (found.longest, found.read, ⟨c.source, c.committed, start + found.read⟩) := by
  generalize hcount : read + 1 = count at hspeculative htails
  fun_induction readWords words continues start count longest c generalizing tails read char with
  | case1 count earlier c behind longest =>
    rename_i hgo ih
    -- The next character is one more of what was read, and narrows what is left of the words.
    obtain ⟨next, -, hahead, hnext⟩ := of_peek_any hgo.2
    have htails' : ∀ tail, tail ∈ tailsAfter next (tailsAfter char tails) ↔
        (c.advance 1).slice start (start + (count + 1)) ++ tail ∈ words := by
      intro tail
      rw [mem_tailsAfter, htails, slice_advance_one hspeculative hahead, List.append_assoc]
      rfl
    have hfound : narrowFrom continues tails earlier read (char :: c.ahead) =
        narrowFrom continues (tailsAfter char tails) longest count c.ahead := by
      rw [narrowFrom_cons_of_tails htails, hcount]
      exact if_pos hgo
    rw [hnext] at ih ⊢
    rw [hfound, hahead, ih rfl (congrArg Nat.succ hspeculative) htails']
    rfl
  | case2 count earlier c behind =>
    rename_i longest hstop
    have hfound : narrowFrom continues tails earlier read (char :: c.ahead) = ⟨longest, count⟩ := by
      rw [narrowFrom_cons_of_tails htails, hcount]
      exact if_neg hstop
    rw [hfound]
    dsimp only
    rw [← hspeculative]

/-- **Words are read as far as narrowing says**, and what was read past the word is never more than
may be given back. -/
theorem tryWords_eq {words : List Text} {continues : Char → Bool}
    (h : c.committed ≤ c.speculative) : c.tryWords words continues = c.narrow words continues := by
  rw [tryWords, Cursor.narrow, Highlighter.narrow]
  cases hahead : c.ahead with
  | nil =>
    rw [readNext_of_nil hahead]
    rfl
  | cons char rest =>
    rw [readNext_of_cons hahead]
    dsimp only
    have htails : ∀ tail, tail ∈ tailsAfter char words ↔
        (c.advance 1).slice c.speculative (c.speculative + (0 + 1)) ++ tail ∈ words := by
      intro tail
      rw [mem_tailsAfter, slice_advance_one rfl hahead, slice, Text.slice_add]
      rfl
    have hwords : (c.advance 1).readWords words continues c.speculative 1 none = _ :=
      readWords_eq rfl htails
    rw [ahead_advance_one hahead] at hwords
    generalize hfound : narrowFrom continues words none 0 (char :: rest) = found at hwords ⊢
    rw [hwords, Narrowing.width]
    dsimp only
    cases hlongest : found.longest with
    | none => rfl
    | some n =>
      have hle : n ≤ found.read := by
        rw [← hfound] at hlongest ⊢
        exact longest_narrowFrom_le (fun _ hn => absurd hn.symm (Option.some_ne_none _)) hlongest
      -- Reading started behind the committed offset, so giving back never stops short there.
      have hback : max (c.speculative + found.read - (found.read - n)) c.committed =
          c.speculative + n := by omega
      exact congrArg (fun stop => (some n, Cursor.mk c.source c.committed stop)) hback

/-! ## Rules -/

/-- Tries the rule for keywords: a word of the list between two boundaries. -/
def tryKeyword (c : Cursor) : Bool × Cursor :=
  if !atBoundary c.previous then (false, c)
  else
    match c.tryWords keywords isIdentifier with
    | (none, after) => (false, after)
    | (some _, after) => (atBoundary after.peek, after)

/-- Tries the rule for numbers: a run behind a boundary that is not empty. -/
def tryNumber (c : Cursor) : Bool × Cursor :=
  if !atBoundary c.previous then (false, c)
  else
    let (read, after) := c.readWhile isNumeric 0
    (0 < read, after)

/-- Tries the rule for operators: a word of the list, whatever stands around it. -/
def trySymbol (c : Cursor) : Bool × Cursor :=
  let (longest, after) := c.tryWords operators extendsRun
  (longest.isSome, after)

/-- Tries a rule by reading one character after the other. -/
def tryRule : Rule → Cursor → Bool × Cursor
  | lineComment, c => c.tryOpened ['/', '/'] fun after => (after.readWhile (!isNewline ·) 0).2
  | blockComment, c => c.tryOpened ['/', '*'] (readBlock none)
  | verbatimString, c => c.tryVerbatim
  | quotedString, c =>
    if c.previous = some '@' then (false, c) else c.tryOpened ['"'] (readQuoted '"' '"')
  | charLiteral, c => c.tryOpened ['\''] (readQuoted '\'' '\'')
  | keyword, c => c.tryKeyword
  | number, c => c.tryNumber
  | symbol, c => c.trySymbol

theorem tryKeyword_eq_probe (h : c.committed ≤ c.speculative) :
    c.tryKeyword = c.probe .keyword := by
  rw [tryKeyword, probe, Rule.probe, probeKeyword, tryWords_eq h, Cursor.narrow]
  cases atBoundary c.previous with
  | false => rfl
  | true =>
    generalize hfound : Highlighter.narrow keywords isIdentifier c.ahead = found
    have hpeek : (c.advance found.width).peek = (c.ahead.drop found.width).head? := by
      rw [peek, ahead_advance]
    dsimp only
    rw [← hpeek, Bool.not_true, if_neg Bool.false_ne_true, if_pos rfl]
    cases found.longest with
    | none => rfl
    | some n =>
      dsimp only [Option.isSome]
      cases atBoundary (c.advance found.width).peek with
      | false => rfl
      | true => rfl

theorem tryNumber_eq_probe (c : Cursor) : c.tryNumber = c.probe .number := by
  rw [tryNumber, probe, Rule.probe, probeNumber, readWhile_eq]
  cases atBoundary c.previous with
  | false => rfl
  | true =>
    dsimp only
    rw [Nat.zero_add, if_neg (by decide), Bool.true_and]
    cases (c.ahead.takeWhile isNumeric).length with
    | zero => rfl
    | succ n => rfl

theorem trySymbol_eq_probe (h : c.committed ≤ c.speculative) :
    c.trySymbol = c.probe .symbol := by
  rw [trySymbol, probe, Rule.probe, probeSymbol, tryWords_eq h, Cursor.narrow]
  dsimp only
  split
  · rename_i hfound
    rw [hfound]
    rfl
  · rename_i hfound
    rw [Bool.not_eq_true] at hfound
    rw [hfound]
    rfl

/-- **Each rule reads as far as its probe says**, wherever the cursor stands. -/
theorem tryRule_eq_probe (rule : Rule) (h : c.committed ≤ c.speculative) :
    c.tryRule rule = c.probe rule := by
  cases rule with
  | lineComment =>
    rw [probe, Rule.probe, probeLineComment_eq]
    exact tryOpened_eq (fun after => by rw [readWhile_eq]) c
  | blockComment =>
    rw [probe, Rule.probe, probeBlockComment_eq]
    exact tryOpened_eq (readBlock_eq none) c
  | verbatimString => exact tryVerbatim_eq_probe h
  | quotedString =>
    rw [tryRule, probe, Rule.probe, probeQuotedString]
    split
    · rfl
    · rw [probeQuoted_eq]
      exact tryOpened_eq (readQuoted_eq '"' '"') c
  | charLiteral =>
    rw [probe, Rule.probe, probeCharLiteral, probeQuoted_eq]
    exact tryOpened_eq (readQuoted_eq '\'' '\'') c
  | keyword => exact tryKeyword_eq_probe h
  | number => exact tryNumber_eq_probe c
  | symbol => exact trySymbol_eq_probe h

/-! ## All or nothing -/

/-- A cursor that goes on in the text ahead has its offsets in order as before. -/
theorem Valid.advance (h : c.Valid) {n : Nat} (hn : n ≤ c.ahead.length) : (c.advance n).Valid := by
  rw [ahead, List.length_drop] at hn
  exact ⟨Nat.le_add_right_of_le h.1, Nat.add_le_of_le_sub' h.2 hn⟩

/-- A probe moves a cursor on, and not past the end of the text. -/
theorem Valid.probe (h : c.Valid) (rule : Rule) : (c.probe rule).2.Valid :=
  h.advance (Rule.read_probe_le rule c.previous c.ahead)

/-- A cursor that commits or rolls back has its offsets in order as before. -/
theorem Valid.settled (h : c.Valid) :
    (Cursor.settled c.source c.speculative).Valid ∧ (Cursor.settled c.source c.committed).Valid :=
  ⟨⟨Nat.le_refl _, h.2⟩, ⟨Nat.le_refl _, Nat.le_trans h.1 h.2⟩⟩

end Cursor

/-- **Trying a rule is all or nothing.** A rule commits to a token exactly where its probe accepts,
so neither the test of the first character nor that of the width turns one down. It then settles the
cursor where the probe ends, which is further on; otherwise it settles it where it had committed
to. The text stays, and reading one character after the other, with the rule's own loops, probes
alike. -/
theorem claim_all_or_nothing (rule : Rule) (c : Cursor) (h : c.Valid) :
    c.tryRule rule = c.probe rule ∧
      (c.claim rule).1 = (c.probe rule).1 ∧
      ((c.probe rule).1 = true →
        (c.claim rule).2 = .settled c.source (c.probe rule).2.speculative ∧
          c.speculative < (c.probe rule).2.speculative) ∧
      ((c.probe rule).1 = false → (c.claim rule).2 = .settled c.source c.committed) ∧
      (c.probe rule).2.source = c.source ∧
      (c.probe rule).2.committed = c.committed ∧
      (c.probe rule).2.Valid ∧
      (c.claim rule).2.source = c.source ∧
      (c.claim rule).2.Valid := by
  have hvalid := h.probe rule
  refine ⟨Cursor.tryRule_eq_probe rule h.1, ?_⟩
  rw [Cursor.claim_eq rule h.1]
  cases hprobe : rule.probe c.previous c.ahead with
  | accept n =>
    have heq : c.probe rule = (true, c.advance n) := by
      rw [Cursor.probe, hprobe]
      rfl
    rw [Rule.match?_eq_some_iff.mpr hprobe]
    rw [heq] at hvalid ⊢
    have hforward : c.speculative < c.speculative + n :=
      Nat.lt_add_of_pos_right (Rule.of_probe_eq_accept hprobe).2
    exact ⟨rfl, fun _ => ⟨rfl, hforward⟩, fun hfalse => absurd hfalse.symm Bool.false_ne_true, rfl,
      rfl, hvalid, rfl, hvalid.settled.1⟩
  | reject read =>
    have heq : c.probe rule = (false, c.advance read) := by
      rw [Cursor.probe, hprobe]
      rfl
    rw [Rule.match?_of_reject read hprobe]
    rw [heq] at hvalid ⊢
    exact ⟨rfl, fun htrue => absurd htrue Bool.false_ne_true, fun _ => rfl, rfl, rfl, hvalid, rfl,
      h.settled.2⟩

/-- With a blank read before, a comment is found behind it, and a word that is no keyword is given
back together with the blank. -/
theorem claim_all_or_nothing_behind_blank :
    Cursor.Valid ⟨"a //b\nc".toList, 1, 2⟩ ∧
      Cursor.claim .lineComment ⟨"a //b\nc".toList, 1, 2⟩ =
        (true, .settled "a //b\nc".toList 5) ∧
      Cursor.Valid ⟨" ifx".toList, 0, 1⟩ ∧
      Cursor.claim .keyword ⟨" ifx".toList, 0, 1⟩ = (false, .settled " ifx".toList 0) := by
  have hcomment : Cursor.Valid ⟨"a //b\nc".toList, 1, 2⟩ := by decide
  have hword : Cursor.Valid ⟨" ifx".toList, 0, 1⟩ := by decide
  obtain ⟨-, haccepts, htrue, -⟩ := claim_all_or_nothing .lineComment _ hcomment
  obtain ⟨-, hrefuses, -, hfalse, -⟩ := claim_all_or_nothing .keyword _ hword
  exact ⟨hcomment, Prod.ext (haccepts.trans (by decide)) (htrue (by decide)).1,
    hword, Prod.ext (hrefuses.trans (by decide)) (hfalse (by decide))⟩

end Highlighter
