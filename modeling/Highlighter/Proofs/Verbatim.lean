import Highlighter.Proofs.Cut
import Highlighter.Proofs.Progress

/-!
# Verbatim strings

A quote in a verbatim string is written twice, so the string ends at the first quote that is not
followed by another one. It is enough to read with one flag that every quote flips.

* `doubled`, `Closes`: the written form of a content, and where it is closed.
* `Closes.unique`: a text is closed at one place at most.
* `closes_or_verbatimWidth`: a string that is not closed goes on to the end of the text.
* `Cursor.readVerbatim`, `Cursor.readVerbatim_eq`: reading with one flag ends at the same place.
* `verbatimString_stops`: where a verbatim string ends.
-/

namespace Highlighter

open Rule

/-! ## Contents -/

/-- A content as it is written between quotes: with every quote twice. -/
def doubled (content : Text) : Text := content.flatMap fun c => if c = '"' then ['"', '"'] else [c]

@[simp] theorem doubled_nil : doubled [] = [] := rfl

@[simp] theorem doubled_quote (content : Text) :
    doubled ('"' :: content) = '"' :: '"' :: doubled content := rfl

theorem doubled_cons {c : Char} (hc : c ≠ '"') (content : Text) :
    doubled (c :: content) = c :: doubled content := by
  rw [doubled, List.flatMap_cons, if_neg hc]
  rfl

/-- The text behind an opening quote is a written content, the closing quote, and a rest that does
not begin with a quote. -/
def Closes (text content rest : Text) : Prop :=
  text = doubled content ++ '"' :: rest ∧ rest.head? ≠ some '"'

/-- A quote right behind the opening one closes the string or stands for the first character of
the content. -/
theorem Closes.of_quote {text content rest : Text} (h : Closes ('"' :: text) content rest) :
    (content = [] ∧ rest = text ∧ text.head? ≠ some '"') ∨
      ∃ more tail, content = '"' :: more ∧ text = '"' :: tail ∧ Closes tail more rest := by
  obtain ⟨htext, hrest⟩ := h
  rcases content with _ | ⟨c, more⟩
  · obtain rfl := (List.cons.inj htext).2
    exact .inl ⟨rfl, rfl, hrest⟩
  by_cases hc : c = '"'
  · subst hc
    exact .inr ⟨more, _, rfl, (List.cons.inj htext).2, rfl, hrest⟩
  · rw [doubled_cons hc] at htext
    exact absurd (List.cons.inj htext).1.symm hc

/-- Any other character is one of the content. -/
theorem Closes.of_ne_quote {c : Char} {text content rest : Text} (hc : c ≠ '"')
    (h : Closes (c :: text) content rest) : ∃ more, content = c :: more ∧ Closes text more rest := by
  obtain ⟨htext, hrest⟩ := h
  rcases content with _ | ⟨d, more⟩
  · exact absurd (List.cons.inj htext).1 hc
  by_cases hd : d = '"'
  · subst hd
    exact absurd (List.cons.inj htext).1 hc
  · rw [doubled_cons hd] at htext
    obtain ⟨rfl, htail⟩ := List.cons.inj htext
    exact ⟨more, rfl, htail, hrest⟩

theorem not_closes_nil {content rest : Text} : ¬ Closes [] content rest := by
  rintro ⟨htext, -⟩
  exact absurd htext.symm (List.append_ne_nil_of_right_ne_nil _ (List.cons_ne_nil _ _))

/-- The written form of a content and its closing quote are as wide as the rule says. -/
theorem Closes.verbatimWidth_eq {text content rest : Text} (h : Closes text content rest) :
    verbatimWidth text = (doubled content).length + 1 := by
  induction content generalizing text with
  | nil =>
    obtain ⟨rfl, hrest⟩ := h
    rw [doubled_nil, List.nil_append, verbatimWidth_cons, if_pos rfl, if_neg hrest]
    rfl
  | cons c content ih =>
    obtain ⟨rfl, hrest⟩ := h
    have htail := ih ⟨rfl, hrest⟩
    by_cases hc : c = '"'
    · subst hc
      rw [doubled_quote, List.cons_append, List.cons_append, verbatimWidth, htail]
      rfl
    · rw [doubled_cons hc, List.cons_append, verbatimWidth_cons, if_neg hc, htail]
      rfl

/-- **A text is closed at one place at most**, and for one content. -/
theorem Closes.unique {text content rest other after : Text} (h : Closes text content rest)
    (hother : Closes text other after) : other = content ∧ after = rest := by
  induction content generalizing text other with
  | nil =>
    obtain ⟨rfl, hrest⟩ := h
    rcases hother.of_quote with ⟨rfl, rfl, -⟩ | ⟨more, tail, -, hrest', -⟩
    · exact ⟨rfl, rfl⟩
    · exact absurd (congrArg List.head? hrest') hrest
  | cons c content ih =>
    obtain ⟨rfl, hrest⟩ := h
    by_cases hc : c = '"'
    · subst hc
      rcases hother.of_quote with ⟨-, -, hhead⟩ | ⟨more, tail, rfl, htail, hmore⟩
      · exact absurd rfl hhead
      · obtain rfl := (List.cons.inj htail).2
        obtain ⟨rfl, rfl⟩ := ih ⟨rfl, hrest⟩ hmore
        exact ⟨rfl, rfl⟩
    · rw [doubled_cons hc] at hother
      obtain ⟨more, rfl, hmore⟩ := hother.of_ne_quote hc
      obtain ⟨rfl, rfl⟩ := ih ⟨rfl, hrest⟩ hmore
      exact ⟨rfl, rfl⟩

/-- A string that is closed nowhere goes on to the end of the text. -/
theorem closes_or_verbatimWidth (text : Text) :
    (∃ content rest, Closes text content rest) ∨ verbatimWidth text = text.length := by
  fun_induction verbatimWidth text with
  | case1 => exact .inr rfl
  | case2 rest ih =>
    refine ih.imp ?_ fun hwidth => by rw [hwidth]; rfl
    rintro ⟨content, after, rfl, hafter⟩
    exact ⟨'"' :: content, after, rfl, hafter⟩
  | case3 rest hrest =>
    refine .inl ⟨[], rest, rfl, fun hhead => ?_⟩
    obtain ⟨more, rfl⟩ := List.head?_eq_some_iff.mp hhead
    exact hrest more rfl
  | case4 c rest _ hc ih =>
    refine ih.imp ?_ fun hwidth => by rw [hwidth]; rfl
    rintro ⟨content, after, rfl, hafter⟩
    exact ⟨c :: content, after, by rw [doubled_cons hc]; rfl, hafter⟩

/-! ## Reading with one flag -/

namespace Cursor

variable {c : Cursor}

theorem of_readNext_eq_none {after : Cursor} (h : c.readNext = (none, after)) :
    c.ahead = [] ∧ after = c := by
  cases hahead : c.ahead with
  | nil =>
    rw [readNext_of_nil hahead] at h
    exact ⟨rfl, (Prod.mk.inj h).2.symm⟩
  | cons char rest =>
    rw [readNext_of_cons hahead] at h
    cases (Prod.mk.inj h).1

theorem of_readNext_eq_some {char : Char} {after : Cursor} (h : c.readNext = (some char, after)) :
    c.ahead = char :: after.ahead ∧ after = c.advance 1 := by
  cases hahead : c.ahead with
  | nil =>
    rw [readNext_of_nil hahead] at h
    cases (Prod.mk.inj h).1
  | cons first rest =>
    rw [readNext_of_cons hahead] at h
    obtain ⟨hchar, rfl⟩ := Prod.mk.inj h
    obtain rfl := Option.some.inj hchar
    rw [ahead_advance_one hahead]
    exact ⟨rfl, rfl⟩

/-- Reads on in a verbatim string, with a flag that every quote flips. Where it is set, any other
character shows that the string has been closed before it, and is given back. -/
def readVerbatim (closed : Bool) (c : Cursor) : Cursor :=
  match _hread : c.readNext with
  | (none, after) => after
  | (some char, after) =>
    if char = '"' then readVerbatim (!closed) after
    else if closed then after.rollbackBy 1
    else readVerbatim closed after
termination_by c.ahead.length
decreasing_by all_goals
  rw [(of_readNext_eq_some _hread).1]
  exact Nat.lt_succ_self _

/-- Tries the rule for verbatim strings by reading one character after the other. -/
def tryVerbatim (c : Cursor) : Bool × Cursor :=
  if c.previous ≠ some '@' then (false, c)
  else
    match c.readNext with
    | (some '"', after) => (true, after.readVerbatim false)
    | (_, after) => (false, after)

/-- **One flag is enough.** After an odd number of quotes reading is where it would be after the
first of a pair. -/
theorem readVerbatim_eq (closed : Bool) (h : c.committed ≤ c.speculative) :
    c.readVerbatim closed =
      c.advance
        (if closed then verbatimWidth ('"' :: c.ahead) - 1 else verbatimWidth c.ahead) := by
  fun_induction readVerbatim closed c with
  | case1 closed c after hread =>
    obtain ⟨hahead, rfl⟩ := of_readNext_eq_none hread
    rw [hahead]
    cases closed <;> rfl
  | case2 closed c after hread ih =>
    obtain ⟨hahead, rfl⟩ := of_readNext_eq_some hread
    rw [ih (Nat.le_succ_of_le h), advance_advance, hahead]
    cases closed with
    | false =>
      have hpos : 0 < verbatimWidth ('"' :: (c.advance 1).ahead) := by
        rw [verbatimWidth_cons, if_pos rfl]
        split <;> exact Nat.succ_pos _
      exact congrArg c.advance (Nat.add_sub_cancel' hpos)
    | true => exact congrArg c.advance (Nat.add_comm 1 _)
  | case3 c char after hread hchar =>
    obtain ⟨hahead, rfl⟩ := of_readNext_eq_some hread
    have hback : max (c.speculative + 1 - 1) c.committed = c.speculative := Nat.max_eq_left h
    rw [if_pos rfl, hahead, verbatimWidth_cons, if_pos rfl, List.head?_cons,
      if_neg (mt Option.some.inj hchar)]
    exact congrArg (Cursor.mk c.source c.committed) hback
  | case4 closed c char after hread hchar hclosed ih =>
    obtain ⟨hahead, rfl⟩ := of_readNext_eq_some hread
    rw [ih (Nat.le_succ_of_le h), advance_advance, if_neg hclosed, if_neg hclosed, hahead,
      verbatimWidth_cons, if_neg hchar, Nat.add_comm]

/-- Reading one character after the other is what the rule does. -/
theorem tryVerbatim_eq_probe (h : c.committed ≤ c.speculative) :
    c.tryVerbatim = c.probe .verbatimString := by
  rw [tryVerbatim, probe]
  by_cases hprevious : c.previous = some '@'
  · rw [if_neg (not_not_intro hprevious)]
    split
    · rename_i after hread
      obtain ⟨hahead, rfl⟩ := of_readNext_eq_some hread
      have hprobe : verbatimString.probe c.previous c.ahead =
          .accept (1 + verbatimWidth (c.advance 1).ahead) := by
        simp [Rule.probe, probeVerbatimString, hprevious, hahead]
      rw [readVerbatim_eq false (Nat.le_succ_of_le h), if_neg Bool.false_ne_true, advance_advance,
        hprobe]
      rfl
    · rename_i char after hchar hread
      rcases char with _ | char
      · obtain ⟨hahead, hafter⟩ := of_readNext_eq_none hread
        have hprobe : verbatimString.probe c.previous c.ahead = .reject 0 := by
          simp [Rule.probe, probeVerbatimString, hahead]
        rw [hprobe, hafter]
        rfl
      · obtain ⟨hahead, rfl⟩ := of_readNext_eq_some hread
        have hne : char ≠ '"' := fun heq => hchar (congrArg some heq)
        have hprobe : verbatimString.probe c.previous c.ahead = .reject 1 := by
          simp [Rule.probe, probeVerbatimString, hprevious, hahead, hne]
        rw [hprobe]
        rfl
  · have hprobe : verbatimString.probe c.previous c.ahead = .reject 0 := if_pos hprevious
    rw [if_pos hprevious, hprobe]
    rfl

end Cursor

/-! ## The rule -/

/-- **Verbatim strings.** A quote behind an `@` opens a verbatim string. If a written content, a
closing quote and a rest that does not begin with a quote come after it, then only one way, and the
string ends behind the closing quote; otherwise it goes on to the end of the text. Reading one
character after the other, with one flag, ends there, too. Behind anything else no verbatim string
is found. -/
theorem verbatimString_stops (text : Text) (i : Nat) :
    (text[i]? = some '"' → (Cursor.settled text i).previous = some '@' →
      ∃ stop, (Cursor.settled text i).claim .verbatimString = (true, .settled text stop) ∧
        (Cursor.settled text i).tryVerbatim = (true, ⟨text, i, stop⟩) ∧
        (∀ content rest, Closes (text.drop (i + 1)) content rest →
          stop = i + 1 + (doubled content).length + 1 ∧
            ∀ other after, Closes (text.drop (i + 1)) other after →
              other = content ∧ after = rest) ∧
        ((¬ ∃ content rest, Closes (text.drop (i + 1)) content rest) → stop = text.length)) ∧
      ∀ c : Cursor, c.previous ≠ some '@' → c.claim .verbatimString = (false, c.rollback) := by
  constructor
  · intro hquote hat
    obtain ⟨hi, -⟩ := List.getElem?_eq_some_iff.mp hquote
    have htext : text.drop i = '"' :: text.drop (i + 1) := by
      rw [List.drop_eq_getElem?_toList_append, hquote]
      rfl
    have hmatch : verbatimString.match? (Cursor.settled text i).previous (text.drop i) =
        some (1 + verbatimWidth (text.drop (i + 1))) := by
      rw [match?_verbatimString, htext, if_pos ⟨rfl, hat⟩, List.tail_cons]
    refine ⟨i + (1 + verbatimWidth (text.drop (i + 1))), ?_, ?_, fun content rest hcloses => ?_,
      fun hopen => ?_⟩
    · rw [Cursor.claim_settled, hmatch]
    · have hprobe : verbatimString.probe (Cursor.settled text i).previous
          (Cursor.settled text i).ahead = .accept _ := (of_match?_eq_some hmatch).2
      rw [Cursor.tryVerbatim_eq_probe (Nat.le_refl i), Cursor.probe, hprobe]
      rfl
    · refine ⟨?_, fun other after hother => hcloses.unique hother⟩
      rw [hcloses.verbatimWidth_eq]
      omega
    · rw [(closes_or_verbatimWidth _).resolve_left hopen, List.length_drop]
      omega
  · intro c hprevious
    have hprobe : verbatimString.probe c.previous c.ahead = .reject 0 := if_pos hprevious
    rw [Cursor.claim, Cursor.probe]
    dsimp only
    rw [hprobe, Probe.accepted, Bool.and_false, Bool.false_and]
    rfl

/-- Quotes right behind the opening one and right before the closing one are of the content, and
two quotes at the end of a text leave the string open. -/
theorem verbatimString_stops_quotes :
    "x@\"\"\"a\"\"\" \"\"".toList[2]? = some '"' ∧
      (Cursor.settled "x@\"\"\"a\"\"\" \"\"".toList 2).previous = some '@' ∧
      Closes ("x@\"\"\"a\"\"\" \"\"".toList.drop 3) "\"a\"".toList " \"\"".toList ∧
      (Cursor.settled "x@\"\"\"a\"\"\" \"\"".toList 2).claim .verbatimString =
        (true, .settled "x@\"\"\"a\"\"\" \"\"".toList 9) ∧
      (¬ ∃ content rest, Closes ("@\"\"\"".toList.drop 2) content rest) ∧
      (Cursor.settled "@\"\"\"".toList 1).claim .verbatimString =
        (true, .settled "@\"\"\"".toList 4) ∧
      (Cursor.settled "@ \"".toList 2).previous ≠ some '@' ∧
      (Cursor.settled "@ \"".toList 2).claim .verbatimString =
        (false, .settled "@ \"".toList 2) := by
  have hcloses : Closes ("x@\"\"\"a\"\"\" \"\"".toList.drop 3) "\"a\"".toList
      " \"\"".toList := ⟨by decide, by decide⟩
  have hopen : ¬ ∃ content rest, Closes ("@\"\"\"".toList.drop 2) content rest := by
    rintro ⟨content, rest, h⟩
    rcases h.of_quote with ⟨-, -, hhead⟩ | ⟨more, tail, -, htail, hmore⟩
    · exact hhead rfl
    · obtain rfl := (List.cons.inj htail).2
      exact not_closes_nil hmore
  obtain ⟨stop, hclaim, -, hstop, -⟩ :=
    (verbatimString_stops "x@\"\"\"a\"\"\" \"\"".toList 2).1 (by decide) (by decide)
  obtain ⟨stop', hclaim', -, -, hstop'⟩ :=
    (verbatimString_stops "@\"\"\"".toList 1).1 (by decide) (by decide)
  obtain rfl := (hstop _ _ hcloses).1
  obtain rfl := hstop' hopen
  exact ⟨by decide, by decide, hcloses, hclaim, hopen, hclaim', by decide,
    (verbatimString_stops "@ \"".toList 2).2 _ (by decide)⟩

end Highlighter
