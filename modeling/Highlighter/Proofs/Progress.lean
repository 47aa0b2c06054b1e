import Highlighter.Cursor
import Highlighter.Proofs.Probe
import Highlighter.Proofs.Scan

/-!
# Scanning with one cursor

A scan can be run with a single cursor that all rules share: each rule reads ahead with it, and one
that finds nothing gives back what it read. The steps are those of `steps`, whatever the rules that
failed have read.

* `Cursor.claimFirst`, `Cursor.next`: the rules in turn, and one step, with one cursor.
* `Cursor.Yields`: a cursor goes through some steps and is then at the end.
* `Cursor.claimFirst_settled`: rules that fail leave no trace on the cursor.
* `Cursor.yields_iff`: the steps that a cursor goes through are those of the scan.
* `steps_partition`: they go through the whole text without a gap, each as the rules say there.
-/

namespace Highlighter

namespace Cursor

/-! ## One character -/

theorem advance_advance (c : Cursor) (m n : Nat) :
    (c.advance m).advance n = c.advance (m + n) := by
  rw [advance, advance, advance, Nat.add_assoc]

theorem ahead_advance (c : Cursor) (n : Nat) : (c.advance n).ahead = c.ahead.drop n :=
  List.drop_drop.symm

theorem ahead_advance_one {c : Cursor} {char : Char} {rest : Text} (h : c.ahead = char :: rest) :
    (c.advance 1).ahead = rest := by
  rw [ahead_advance, h]
  rfl

theorem readNext_of_nil {c : Cursor} (h : c.ahead = []) : c.readNext = (none, c) := by
  rw [readNext, peek, h]
  rfl

theorem readNext_of_cons {c : Cursor} {char : Char} {rest : Text} (h : c.ahead = char :: rest) :
    c.readNext = (some char, c.advance 1) := by
  rw [readNext, peek, h]
  rfl

/-! ## Steps of a cursor -/

/-- Tries rules in turn with one cursor, until one of them commits to a token. -/
def claimFirst : List Rule → Cursor → Option Rule × Cursor
  | [], c => (none, c)
  | rule :: rules, c =>
    match c.claim rule with
    | (true, after) => (some rule, after)
    | (false, after) => claimFirst rules after

/-- Takes one step: the token of the first rule that commits to one, or else one character. There
is no step at the end of the text. -/
def next (rules : List Rule) (c : Cursor) : Option (Step × Cursor) :=
  if c.atEnd then none
  else
    match claimFirst rules c with
    | (some rule, after) =>
      some (.token ⟨c.committed, after.committed, rule⟩
        (after.slice c.committed after.committed), after)
    | (none, after) =>
      match after.readNext with
      | (some char, after) => some (.plain c.committed char, after.commit)
      | (none, _) => none

/-- The cursor goes through some steps, after which there is none. -/
inductive Yields (rules : List Rule) : Cursor → List Step → Prop where
  | done {c : Cursor} : next rules c = none → Yields rules c []
  | step {c after : Cursor} {first : Step} {rest : List Step} :
      next rules c = some (first, after) → Yields rules after rest →
      Yields rules c (first :: rest)

theorem Yields.unique {rules : List Rule} {c : Cursor} {all other : List Step}
    (h : Yields rules c all) (hother : Yields rules c other) : all = other := by
  induction h generalizing other with
  | done hnone =>
    cases hother with
    | done _ => rfl
    | step hsome _ => cases hnone.symm.trans hsome
  | step hsome _ ih =>
    cases hother with
    | done hnone => cases hnone.symm.trans hsome
    | step hsome' hrest =>
      obtain ⟨rfl, rfl⟩ := Prod.mk.inj (Option.some.inj (hsome.symm.trans hsome'))
      rw [ih hrest]

/-! ## Cursors between two steps -/

variable {source : Text} {position : Nat} {rules : List Rule}

/-- A fresh cursor at an offset: it has committed to what lies before, and read nothing more. -/
def settled (source : Text) (position : Nat) : Cursor := ⟨source, position, position⟩

theorem atEnd_settled (source : Text) (position : Nat) :
    (settled source position).atEnd = decide (source.length ≤ position) := rfl

/-- A rule that finds a token where a cursor reads settles the cursor behind it, and one that finds
none gives everything back. -/
theorem claim_eq {c : Cursor} (rule : Rule) (h : c.committed ≤ c.speculative) :
    c.claim rule =
      match rule.match? c.previous c.ahead with
      | some n => (true, settled c.source (c.speculative + n))
      | none => (false, settled c.source c.committed) := by
  rw [claim, probe]
  dsimp only
  cases hprobe : rule.probe c.previous c.ahead with
  | accept n =>
    obtain ⟨hstart, hpos⟩ := Rule.of_probe_eq_accept hprobe
    have hmatch : rule.match? c.previous c.ahead = some n := Rule.match?_eq_some_iff.mpr hprobe
    have hpeek : c.peek.any rule.couldStart = true := hstart
    have hread : c.committed < (c.advance (Probe.accept n).read).speculative :=
      Nat.lt_of_le_of_lt h (Nat.lt_add_of_pos_right hpos)
    rw [hmatch, hpeek, decide_eq_true hread]
    rfl
  | reject read =>
    have hmatch : rule.match? c.previous c.ahead = none := Rule.match?_of_reject read hprobe
    rw [hmatch, Probe.accepted, Bool.and_false, Bool.false_and]
    rfl

/-- A rule moves a fresh cursor past the token that it finds, or leaves it where it is. -/
theorem claim_settled (rule : Rule) (source : Text) (position : Nat) :
    (settled source position).claim rule =
      match rule.match? (settled source position).previous (source.drop position) with
      | some n => (true, settled source (position + n))
      | none => (false, settled source position) :=
  claim_eq rule (Nat.le_refl position)

/-- **Rules that fail leave no trace.** However far the rules that find nothing have read, the
first one that finds a token moves the cursor from where it was to the end of the token. -/
theorem claimFirst_settled (rules : List Rule) (source : Text) (position : Nat) :
    claimFirst rules (settled source position) =
      match Rule.firstMatch? rules (settled source position).previous (source.drop position) with
      | some (rule, n) => (some rule, settled source (position + n))
      | none => (none, settled source position) := by
  induction rules with
  | nil => rfl
  | cons rule rules ih =>
    rw [claimFirst, claim_settled]
    cases hmatch : rule.match? (settled source position).previous (source.drop position) with
    | some n => rw [Rule.firstMatch?_cons_of_some hmatch]
    | none =>
      rw [Rule.firstMatch?_cons_of_none hmatch]
      exact ih

theorem next_of_end (h : source.drop position = []) :
    next rules (settled source position) = none := by
  rw [next, atEnd_settled, if_pos (decide_eq_true (List.drop_eq_nil_iff.mp h))]

theorem next_of_some {rule : Rule} {n : Nat}
    (h : Rule.firstMatch? rules (settled source position).previous (source.drop position) =
      some (rule, n)) :
    next rules (settled source position) =
      some (.token ⟨position, position + n, rule⟩ ((source.drop position).take n),
        settled source (position + n)) := by
  obtain ⟨hpos, hle⟩ := Rule.firstMatch?_bounds h
  rw [List.length_drop] at hle
  have hend : ¬ (settled source position).atEnd = true := by
    rw [atEnd_settled, decide_eq_true_eq]
    omega
  have hslice : (settled source (position + n)).slice position (position + n) =
      (source.drop position).take n := by
    rw [slice, Text.slice, Nat.add_sub_cancel_left]
    rfl
  rw [next, if_neg hend, claimFirst_settled, h, ← hslice]
  rfl

theorem next_of_none {c : Char} {rest : Text} (htext : source.drop position = c :: rest)
    (h : Rule.firstMatch? rules (settled source position).previous (source.drop position) =
      none) :
    next rules (settled source position) =
      some (.plain position c, settled source (position + 1)) := by
  have hend : ¬ (settled source position).atEnd = true := by
    rw [atEnd_settled, decide_eq_true_eq]
    intro hle
    rw [List.drop_eq_nil_of_le hle] at htext
    cases htext
  have hahead : (settled source position).ahead = c :: rest := htext
  rw [next, if_neg hend, claimFirst_settled, h]
  dsimp only
  rw [readNext_of_cons hahead]
  rfl

/-- The character behind a cursor is the last one that it went past. -/
theorem previous_settled_add {n : Nat} (hpos : 0 < n) (hle : n ≤ (source.drop position).length) :
    (settled source (position + n)).previous = ((source.drop position).take n).getLast? := by
  obtain ⟨m, rfl⟩ : ∃ m, n = m + 1 := Nat.exists_eq_succ_of_ne_zero (Nat.ne_of_gt hpos)
  rw [List.getLast?_eq_getElem?, List.length_take_of_le hle, Nat.add_sub_cancel,
    List.getElem?_take_of_lt (Nat.lt_succ_self m), List.getElem?_drop]
  rfl

theorem yields_stepsFrom (rules : List Rule) (source : Text) (position : Nat) :
    Yields rules (settled source position)
      (stepsFrom rules (settled source position).previous position 0 (source.drop position)) := by
  generalize hprevious : (settled source position).previous = previous
  generalize htext : source.drop position = text
  induction previous, position, text using scan_induction rules with
  | nil previous position => exact .done (next_of_end htext)
  | plain previous position c rest h ih =>
    have hnone : Rule.firstMatch? rules (settled source position).previous
        (source.drop position) = none := by
      rw [hprevious, htext, h]
    have hafter : (settled source (position + 1)).previous = some c := by
      rw [previous_settled_add Nat.one_pos (by rw [htext]; exact Nat.succ_pos _), htext]
      rfl
    have hrest : source.drop (position + 1) = rest := by
      rw [← List.drop_drop, htext]
      rfl
    rw [stepsFrom_plain h]
    exact .step (next_of_none htext hnone) (ih hafter hrest)
  | token previous position text rule n h ih =>
    obtain ⟨hpos, hle⟩ := Rule.firstMatch?_bounds h
    subst htext
    subst hprevious
    rw [stepsFrom_token h]
    exact .step (next_of_some h) (ih (previous_settled_add hpos hle) List.drop_drop.symm)

/-- **One cursor does for all rules.** The steps that it goes through from the start of a text are
those of the scan, and no others. -/
theorem yields_iff (rules : List Rule) (text : Text) (all : List Step) :
    Yields rules (ofText text) all ↔ all = steps rules text := by
  have hsteps : Yields rules (ofText text) (steps rules text) := yields_stepsFrom rules text 0
  constructor
  · exact fun h => h.unique hsteps
  · rintro rfl
    exact hsteps

/-- All that a step can be: it starts at the cursor, it leaves the cursor at its end, and it is the
token that the first rule finds, if one does. -/
theorem of_next_eq_some {step : Step} {after : Cursor}
    (h : next rules (settled source position) = some (step, after)) :
    step.start = position ∧ after = settled source step.stop ∧
      step.span? = (Rule.firstMatch? rules (settled source position).previous
        (source.drop position)).map fun found => ⟨position, position + found.2, found.1⟩ := by
  cases hfirst : Rule.firstMatch? rules (settled source position).previous
      (source.drop position) with
  | some found =>
    rw [next_of_some hfirst] at h
    obtain ⟨rfl, rfl⟩ := Prod.mk.inj (Option.some.inj h)
    exact ⟨rfl, rfl, rfl⟩
  | none =>
    cases htext : source.drop position with
    | nil =>
      rw [next_of_end htext] at h
      cases h
    | cons c rest =>
      rw [next_of_none htext hfirst] at h
      obtain ⟨rfl, rfl⟩ := Prod.mk.inj (Option.some.inj h)
      exact ⟨rfl, rfl, rfl⟩

/-- Every step is the one that a fresh cursor takes where the step starts. -/
theorem Yields.next_of_mem {c : Cursor} {all : List Step} (h : Yields rules c all)
    (hc : c = settled source position) {step : Step} (hstep : step ∈ all) :
    next rules (settled source step.start) = some (step, settled source step.stop) := by
  induction h generalizing position with
  | done _ => cases hstep
  | step hnext _ ih =>
    subst hc
    obtain ⟨hstart, rfl, -⟩ := of_next_eq_some hnext
    rcases List.mem_cons.mp hstep with rfl | hmem
    · rw [hstart, hnext]
    · exact ih rfl hmem

/-- A step of a scan is the token that the first rule finds where it starts, if one does. -/
theorem span?_of_mem_steps {step : Step} (hstep : step ∈ steps rules source) :
    step.span? = (Rule.firstMatch? rules (settled source step.start).previous
      (source.drop step.start)).map fun found => ⟨step.start, step.start + found.2, found.1⟩ := by
  have hyields : Yields rules (ofText source) (steps rules source) :=
    (yields_iff rules source _).mpr rfl
  have hstart : ofText source = settled source 0 := rfl
  exact (of_next_eq_some (hyields.next_of_mem hstart hstep)).2.2

/-- A step is the token of the first rule that accepts where it starts, up to where that rule stops
reading. -/
theorem span?_eq_some_iff {step : Step} {after : Cursor}
    (h : next rules (settled source position) = some (step, after)) (rule : Rule) (stop : Nat) :
    step.span? = some ⟨position, stop, rule⟩ ↔
      rules.find? (fun other => ((settled source position).probe other).1) = some rule ∧
        ((settled source position).probe rule).2.speculative = stop := by
  rw [(of_next_eq_some h).2.2, Option.map_eq_some_iff]
  constructor
  · rintro ⟨⟨other, n⟩, hfirst, heq⟩
    obtain ⟨-, rfl, rfl⟩ := Span.mk.inj heq
    obtain ⟨hfind, rfl⟩ := Rule.firstMatch?_eq_some_iff.mp hfirst
    exact ⟨hfind, rfl⟩
  · rintro ⟨hfind, rfl⟩
    exact ⟨(rule, _), Rule.firstMatch?_eq_some_iff.mpr ⟨hfind, rfl⟩, rfl⟩

/-- A step is a plain character where no rule accepts. -/
theorem span?_eq_none_iff {step : Step} {after : Cursor}
    (h : next rules (settled source position) = some (step, after)) :
    step.span? = none ↔ ∀ rule ∈ rules, ((settled source position).probe rule).1 = false := by
  rw [(of_next_eq_some h).2.2, Option.map_eq_none_iff, Rule.firstMatch?_eq_none_iff]
  exact forall₂_congr fun rule _ => Rule.match?_eq_none_iff

end Cursor

/-- **A scan goes through the whole text, as the rules say at every place.** One cursor that all
rules share goes through its steps and no others; there are no more of them than characters, they
follow each other from the start to the end, and none is empty. A step is a token of a rule exactly
if that is the first one to accept for a fresh cursor there, and ends where the rule stops reading;
it is a plain character exactly if no rule accepts. So the tokens lie in the text, one after the
other. -/
theorem steps_partition (rules : List Rule) (text : Text) :
    (∀ all, Cursor.Yields rules (.ofText text) all ↔ all = steps rules text) ∧
      (steps rules text).length ≤ text.length ∧
      Tiles 0 (steps rules text) text.length ∧
      (∀ step ∈ steps rules text,
        (∀ rule stop, step.span? = some ⟨step.start, stop, rule⟩ ↔
          rules.find? (fun other => ((Cursor.settled text step.start).probe other).1) = some rule ∧
            ((Cursor.settled text step.start).probe rule).2.speculative = stop) ∧
        (step.span? = none ↔
          ∀ rule ∈ rules, ((Cursor.settled text step.start).probe rule).1 = false)) ∧
      ((spans rules text).Pairwise fun a b => a.start < b.start ∧ a.stop ≤ b.start) ∧
      ∀ span ∈ spans rules text, span.start < span.stop ∧ span.stop ≤ text.length := by
  have htiles : Tiles 0 (steps rules text) text.length := by
    have hall := tiles_stepsFrom rules none 0 text
    rwa [Nat.zero_add] at hall
  have hyields : Cursor.Yields rules (.ofText text) (steps rules text) :=
    (Cursor.yields_iff rules text _).mpr rfl
  refine ⟨Cursor.yields_iff rules text, ?_, htiles, fun step hstep => ?_, htiles.pairwise_spans,
    fun span hspan => (htiles.span_bounds hspan).2⟩
  · simpa only [Nat.zero_add] using htiles.length_le
  · have hstart : Cursor.ofText text = Cursor.settled text 0 := rfl
    have hnext := hyields.next_of_mem hstart hstep
    exact ⟨Cursor.span?_eq_some_iff hnext, Cursor.span?_eq_none_iff hnext⟩

/-- The rules for comments read the slash and what follows it, and give both back. -/
theorem steps_partition_division :
    Cursor.Yields [.blockComment, .lineComment, .number] (.ofText "1/2".toList)
        [.token ⟨0, 1, .number⟩ ['1'], .plain 1 '/', .token ⟨2, 3, .number⟩ ['2']] ∧
      ∀ rule ∈ [Rule.blockComment, .lineComment, .number],
        ((Cursor.settled "1/2".toList 1).probe rule).1 = false := by
  obtain ⟨hyields, -, -, hstep, -⟩ :=
    steps_partition [.blockComment, .lineComment, .number] "1/2".toList
  exact ⟨(hyields _).mpr (by decide), (hstep (.plain 1 '/') (by decide)).2.mp rfl⟩

end Highlighter
