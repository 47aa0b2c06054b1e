import Highlighter.Proofs.Reading
import Highlighter.Proofs.Slices

/-!
# Requests to a cursor

A cursor may be asked for anything in any order: rules are tried wherever it reads, and it goes on
from where a rule that found nothing has stopped. Whatever it is asked for, it reads on, commits to
what it has read, or gives back what it has not committed to. So its offsets stay in order along
every run of requests.

* `Cursor.tryClaim`, `Cursor.tryClaim_eq_claim`: trying a rule one character after the other and
  settling the cursor.
* `Cursor.Request`, `Cursor.Answer`, `Cursor.perform`: what a cursor is asked for, and what it does.
* `Cursor.Moves`: the three ways in which a request moves a cursor, with what they have in common
  and what tells them apart.
* `Cursor.Valid.moves_perform`: every request moves a cursor in one of these ways.
* `Cursor.run`, `Cursor.Valid.run`: the cursor after some requests has its offsets in order.
* `Cursor.run_keeps_order`: what holds after every run, and of every request that comes next.
-/

namespace Highlighter

namespace Cursor

variable {c after : Cursor}

/-! ## Trying and settling -/

/-- Tries a rule by reading one character after the other, unless the first one rules it out.
Commits to what was read if the rule accepts it and it is something, and gives it back otherwise. -/
def tryClaim (rule : Rule) (c : Cursor) : Bool × Cursor :=
  if c.peek.any rule.couldStart then
    match c.tryRule rule with
    | (true, after) =>
      if after.committed < after.speculative then (true, after.commit) else (false, after.rollback)
    | (false, after) => (false, after.rollback)
  else (false, c.rollback)

theorem tryClaim_eq_claim (rule : Rule) (h : c.committed ≤ c.speculative) :
    c.tryClaim rule = c.claim rule := by
  rw [tryClaim, tryRule_eq_probe rule h, claim]
  cases c.peek.any rule.couldStart with
  | false => rfl
  | true =>
    rw [probe]
    cases (rule.probe c.previous c.ahead).accepted with
    | false => rfl
    | true =>
      simp only [if_true, Bool.true_and, decide_eq_true_eq]
      rfl

/-! ## Requests -/

/-- What may be asked of a cursor. -/
inductive Request where
  | readNext
  | peek
  | current
  | previous
  | commit
  | rollback
  | rollbackBy (count : Nat)
  | atEnd
  | slice (start stop : Nat)
  | claim (rule : Rule)
  | probe (rule : Rule)
deriving DecidableEq, Repr

/-- What a cursor answers. -/
inductive Answer where
  | done
  | char (found : Option Char)
  | flag (holds : Bool)
  | text (part : Text)
deriving DecidableEq, Repr

/-- The answer to a request, and the cursor after it. Rules read one character after the other. -/
def perform (c : Cursor) : Request → Answer × Cursor
  | .readNext => (.char c.readNext.1, c.readNext.2)
  | .peek => (.char c.peek, c)
  | .current => (.char c.current, c)
  | .previous => (.char c.previous, c)
  | .commit => (.done, c.commit)
  | .rollback => (.done, c.rollback)
  | .rollbackBy count => (.done, c.rollbackBy count)
  | .atEnd => (.flag c.atEnd, c)
  | .slice start stop => (.text (c.slice start stop), c)
  | .claim rule => (.flag (c.tryClaim rule).1, (c.tryClaim rule).2)
  | .probe rule => (.flag (c.tryRule rule).1, (c.tryRule rule).2)

/-- Whether a request settles what has been read: a commit does, and so does a rule that commits to
a token. -/
def Request.Commits (request : Request) (answer : Answer) : Prop :=
  request = .commit ∨ ∃ rule, request = .claim rule ∧ answer = .flag true

/-- Whether a request may go back: rolling back does, in full or in part, and so does a rule that
has no token to commit to. -/
def Request.GivesBack (request : Request) (answer : Answer) : Prop :=
  request = .rollback ∨ (∃ count, request = .rollbackBy count) ∨
    ∃ rule, request = .claim rule ∧ answer = .flag false

/-! ## Moves -/

/-- The ways in which a request moves a cursor. To look is to read no character. -/
inductive Moves (c : Cursor) : Request → Answer → Cursor → Prop where
  | reads {request : Request} {answer : Answer} (n : Nat)
      (hend : c.speculative + n ≤ c.source.length) : Moves c request answer (c.advance n)
  | commits {request : Request} {answer : Answer} (n : Nat)
      (hend : c.speculative + n ≤ c.source.length) (hrequest : request.Commits answer) :
      Moves c request answer (settled c.source (c.speculative + n))
  | givesBack {request : Request} {answer : Answer} (stop : Nat) (hle : c.committed ≤ stop)
      (hstop : stop ≤ c.speculative) (hrequest : request.GivesBack answer) :
      Moves c request answer { c with speculative := stop }

namespace Moves

variable {request : Request} {answer : Answer}

/-- Every way keeps the offsets in order. -/
theorem valid (h : c.Moves request answer after) (hc : c.Valid) : after.Valid := by
  obtain ⟨hle, hlength⟩ := hc
  cases h with
  | reads n hend => exact ⟨Nat.le_add_right_of_le hle, hend⟩
  | commits n hend _ => exact ⟨Nat.le_refl _, hend⟩
  | givesBack stop hcommitted hstop _ => exact ⟨hcommitted, Nat.le_trans hstop hlength⟩

theorem source_eq (h : c.Moves request answer after) : after.source = c.source := by
  cases h <;> rfl

theorem committed_le (h : c.Moves request answer after) (hc : c.Valid) :
    c.committed ≤ after.committed := by
  cases h with
  | reads n hend => exact Nat.le_refl _
  | commits n _ _ => exact Nat.le_add_right_of_le hc.1
  | givesBack stop _ _ _ => exact Nat.le_refl _

/-- Only committing changes the committed offset. -/
theorem commits_of_ne (h : c.Moves request answer after)
    (hne : after.committed ≠ c.committed) : request.Commits answer := by
  cases h with
  | reads n _ => exact absurd rfl hne
  | commits n _ hrequest => exact hrequest
  | givesBack stop _ _ _ => exact absurd rfl hne

/-- Only giving back moves the speculative offset back. -/
theorem givesBack_of_lt (h : c.Moves request answer after)
    (hlt : after.speculative < c.speculative) : request.GivesBack answer := by
  cases h with
  | reads n _ => exact absurd hlt (Nat.not_lt_of_le (Nat.le_add_right _ _))
  | commits n _ _ => exact absurd hlt (Nat.not_lt_of_le (Nat.le_add_right _ _))
  | givesBack stop _ _ hrequest => exact hrequest

/-- A rule that is only tried neither commits nor goes back. -/
theorem of_probe {rule : Rule} (h : c.Moves (.probe rule) answer after) :
    after.committed = c.committed ∧ c.speculative ≤ after.speculative := by
  constructor
  · by_contra hne
    obtain hcommit | ⟨_, hclaim, _⟩ := h.commits_of_ne hne
    · cases hcommit
    · cases hclaim
  · by_contra hlt
    obtain hback | ⟨_, hback⟩ | ⟨_, hclaim, _⟩ := h.givesBack_of_lt (Nat.lt_of_not_le hlt)
    · cases hback
    · cases hback
    · cases hclaim

end Moves

/-- A request that only looks reads no character. -/
theorem Valid.moves_look (h : c.Valid) (request : Request) (answer : Answer) :
    c.Moves request answer c :=
  .reads 0 h.2

theorem Valid.moves_readNext (h : c.Valid) :
    c.Moves .readNext (.char c.readNext.1) c.readNext.2 := by
  cases hahead : c.ahead with
  | nil =>
    rw [readNext_of_nil hahead]
    exact h.moves_look _ _
  | cons char rest =>
    have hone : 1 ≤ c.ahead.length := by
      rw [hahead]
      exact Nat.succ_pos _
    rw [readNext_of_cons hahead]
    exact .reads 1 (h.advance hone).2

/-- Trying a rule reads on, whether it accepts or not. -/
theorem Valid.moves_tryRule (h : c.Valid) (rule : Rule) :
    c.Moves (.probe rule) (.flag (c.tryRule rule).1) (c.tryRule rule).2 := by
  -- Words and verbatim strings give characters back, but never more than they have read here: in
  -- the end each rule has read on by what its probe says.
  rw [tryRule_eq_probe rule h.1]
  exact .reads _ (h.probe rule).2

/-- A rule commits to what it has read, or gives back all that is not committed. -/
theorem Valid.moves_tryClaim (h : c.Valid) (rule : Rule) :
    c.Moves (.claim rule) (.flag (c.tryClaim rule).1) (c.tryClaim rule).2 := by
  rw [tryClaim_eq_claim rule h.1, claim_eq rule h.1]
  cases hmatch : rule.match? c.previous c.ahead with
  | some n => exact .commits n (h.advance (Rule.match?_le hmatch)).2 (.inr ⟨rule, rfl, rfl⟩)
  | none => exact .givesBack c.committed (Nat.le_refl _) h.1 (.inr (.inr ⟨rule, rfl, rfl⟩))

/-- **Every request reads on, commits or gives back.** -/
theorem Valid.moves_perform (h : c.Valid) (request : Request) :
    c.Moves request (c.perform request).1 (c.perform request).2 := by
  cases request with
  | readNext => exact h.moves_readNext
  | peek | current | previous | atEnd | slice _ _ => exact h.moves_look _ _
  | commit => exact .commits 0 h.2 (.inl rfl)
  | rollback => exact .givesBack c.committed (Nat.le_refl _) h.1 (.inl rfl)
  | rollbackBy count =>
    exact .givesBack (max (c.speculative - count) c.committed) (Nat.le_max_right _ _)
      (Nat.max_le.mpr ⟨Nat.sub_le _ _, h.1⟩) (.inr (.inl ⟨count, rfl⟩))
  | claim rule => exact h.moves_tryClaim rule
  | probe rule => exact h.moves_tryRule rule

/-! ## Runs -/

/-- The cursor after some requests. -/
def run (c : Cursor) (requests : List Request) : Cursor :=
  requests.foldl (fun c request => (c.perform request).2) c

/-- Whatever is asked of a cursor, its offsets stay in order. -/
theorem Valid.run (h : c.Valid) (requests : List Request) : (c.run requests).Valid := by
  induction requests generalizing c with
  | nil => exact h
  | cons request rest ih => exact ih ((h.moves_perform request).valid h)

theorem Valid.source_run (h : c.Valid) (requests : List Request) :
    (c.run requests).source = c.source := by
  induction requests generalizing c with
  | nil => rfl
  | cons request rest ih =>
    have hmoves := h.moves_perform request
    exact (ih (hmoves.valid h)).trans hmoves.source_eq

/-- Along a run, the committed offset only ever moves on. -/
theorem Valid.committed_le_run (h : c.Valid) (requests : List Request) :
    c.committed ≤ (c.run requests).committed := by
  induction requests generalizing c with
  | nil => exact Nat.le_refl _
  | cons request rest ih =>
    have hmoves := h.moves_perform request
    exact Nat.le_trans (hmoves.committed_le h) (ih (hmoves.valid h))

theorem valid_ofText (source : Text) : (ofText source).Valid := ⟨Nat.le_refl 0, Nat.zero_le _⟩

/-- Where the offsets are in order, being at the end is to have read exactly the whole text. -/
theorem Valid.atEnd_eq (h : c.Valid) : c.atEnd = decide (c.speculative = c.source.length) :=
  decide_eq_decide.mpr ⟨fun hle => Nat.le_antisymm h.2 hle, fun heq => Nat.le_of_eq heq.symm⟩

/-- **The offsets of a cursor stay in order, whatever it is asked for.** After every run of requests
from the start of a text, the text is as it was, the committed offset does not lie behind the
speculative one nor that one behind the end, and no further run takes back what is committed. The
request that comes next changes the committed offset only by committing, and moves the speculative
one back only by giving back; a rule that is only tried does neither, whether it accepts or not.
Rules that read one character after the other do what their probes say at every place that a run
leads to, the end is reached where the whole text has been read, and there is a part between any two
offsets. -/
theorem run_keeps_order (source : Text) (requests : List Request) :
    let c := (ofText source).run requests
    c.Valid ∧ c.source = source ∧
      (∀ more, c.committed ≤ (c.run more).committed) ∧
      (∀ request,
        ((c.perform request).2.committed ≠ c.committed →
          request.Commits (c.perform request).1) ∧
        ((c.perform request).2.speculative < c.speculative →
          request.GivesBack (c.perform request).1)) ∧
      (∀ rule,
        (c.perform (.probe rule)).2.committed = c.committed ∧
        c.speculative ≤ (c.perform (.probe rule)).2.speculative ∧
        c.tryRule rule = c.probe rule ∧ c.tryClaim rule = c.claim rule) ∧
      c.atEnd = decide (c.speculative = source.length) ∧
      ∀ start stop, source.slice? (min start (min stop source.length)) (min stop source.length) =
        some (c.slice start stop) := by
  intro c
  have hvalid : c.Valid := (valid_ofText source).run requests
  have hsource : c.source = source := (valid_ofText source).source_run requests
  refine ⟨hvalid, hsource, hvalid.committed_le_run, fun request => ?_, fun rule => ?_, ?_,
    fun start stop => ?_⟩
  · have hmoves := hvalid.moves_perform request
    exact ⟨hmoves.commits_of_ne, hmoves.givesBack_of_lt⟩
  · obtain ⟨hcommitted, hspeculative⟩ := (hvalid.moves_perform (.probe rule)).of_probe
    exact ⟨hcommitted, hspeculative, tryRule_eq_probe rule hvalid.1,
      tryClaim_eq_claim rule hvalid.1⟩
  · rw [← hsource]
    exact hvalid.atEnd_eq
  · rw [slice, hsource]
    exact Text.slice?_clamped source start stop

/-- A rule that finds nothing leaves the cursor where it has stopped reading. To give back more than
was read since the last commit is to give back all of that. -/
example :
    (ofText "1/x".toList).run [.probe .number, .commit, .probe .blockComment] =
        ⟨"1/x".toList, 1, 3⟩ ∧
      (ofText "1/x".toList).run [.probe .number, .commit, .probe .blockComment, .rollbackBy 3] =
        ⟨"1/x".toList, 1, 1⟩ := by
  cbv

end Cursor

end Highlighter
