import Highlighter.Proofs.Scan
import Highlighter.Token

/-!
# Words between the tokens

A word is a longest run of word characters that no rule has claimed. Words are put together one
character at a time, next to tokens that may begin or end with word characters themselves.

* `IsRun`: a longest run of offsets with some property.
* `Tiles.tokensOf_bounds`, `Tiles.pairwise_tokensOf`: tokens and words lie in the text one after
  the other, and none is empty.
* `mem_tokensOf_some`, `Tiles.mem_tokensOf_none`: they are the tokens of the rules and the longest
  runs of plain word characters.
* `gather`, `gather_steps`: one pass over the steps, in which the last word stays open, finds the
  same.
-/

namespace Highlighter

/-! ## Runs -/

/-- The offsets from `start` up to, but without, `stop` satisfy `P`, and the ones on both sides of
them do not. -/
structure IsRun (P : Nat → Prop) (start stop : Nat) : Prop where
  lt : start < stop
  all : ∀ i, start ≤ i → i < stop → P i
  left : ∀ i, i + 1 = start → ¬ P i
  right : ¬ P stop

section Runs

variable {P Q : Nat → Prop} {start stop position i : Nat}

instance [DecidablePred P] : Decidable (IsRun P start stop) :=
  decidable_of_iff (start < stop ∧ (∀ i < stop, start ≤ i → P i) ∧
      (∀ i < start, i + 1 = start → ¬ P i) ∧ ¬ P stop)
    ⟨fun ⟨hlt, hall, hleft, hright⟩ =>
        ⟨hlt, fun i hi hi' => hall i hi' hi, fun i hi => hleft i (by omega) hi, hright⟩,
      fun h => ⟨h.lt, fun i hi hi' => h.all i hi' hi, fun i _ => h.left i, h.right⟩⟩

theorem IsRun.congr (h : ∀ i, P i ↔ Q i) : IsRun P start stop ↔ IsRun Q start stop := by
  have : P = Q := funext fun i => propext (h i)
  rw [this]

/-- A run that an offset lies in begins somewhere at or before it. -/
theorem exists_run_start (hi : P i) :
    ∃ start ≤ i, (∀ j, start ≤ j → j ≤ i → P j) ∧ ∀ j, j + 1 = start → ¬ P j := by
  induction i with
  | zero => exact ⟨0, Nat.le_refl 0, fun j _ hj => Nat.le_zero.mp hj ▸ hi, fun j hj => by omega⟩
  | succ i ih =>
    by_cases hprevious : P i
    · obtain ⟨start, hle, hall, hleft⟩ := ih hprevious
      refine ⟨start, Nat.le_succ_of_le hle, fun j hstart hj => ?_, hleft⟩
      rcases Nat.lt_or_eq_of_le hj with hlt | rfl
      · exact hall j hstart (Nat.le_of_lt_succ hlt)
      · exact hi
    · refine ⟨i + 1, Nat.le_refl _, fun j hstart hj => ?_, fun j hj => ?_⟩
      · rwa [Nat.le_antisymm hj hstart]
      · rwa [Nat.succ.inj hj]

/-- A run that an offset lies in ends somewhere after it, if it is not endless. -/
theorem exists_run_stop {bound : Nat} (hbound : ∀ j, P j → j < bound) (hi : P i) :
    ∃ stop, i < stop ∧ (∀ j, i ≤ j → j < stop → P j) ∧ ¬ P stop := by
  obtain ⟨left, hleft⟩ : ∃ left, bound - i = left := ⟨_, rfl⟩
  induction left generalizing i with
  | zero => exact absurd (hbound i hi) (by omega)
  | succ left ih =>
    by_cases hnext : P (i + 1)
    · obtain ⟨stop, hlt, hall, hright⟩ := ih hnext (by omega)
      refine ⟨stop, by omega, fun j hle hj => ?_, hright⟩
      rcases Nat.eq_or_lt_of_le hle with rfl | hgt
      · exact hi
      · exact hall j hgt hj
    · refine ⟨i + 1, Nat.lt_succ_self i, fun j hle hj => ?_, hnext⟩
      rwa [Nat.le_antisymm (Nat.le_of_lt_succ hj) hle]

/-- An offset that satisfies `P` lies in a run. -/
theorem exists_isRun {bound : Nat} (hbound : ∀ j, P j → j < bound) (hi : P i) :
    ∃ start stop, start ≤ i ∧ i < stop ∧ IsRun P start stop := by
  obtain ⟨start, hstart, hbefore, hleft⟩ := exists_run_start hi
  obtain ⟨stop, hstop, hafter, hright⟩ := exists_run_stop hbound hi
  refine ⟨start, stop, hstart, hstop, by omega, fun j hj hj' => ?_, hleft, hright⟩
  rcases Nat.le_total j i with hle | hge
  · exact hbefore j hj hle
  · exact hafter j hge hj'

/-- One more offset in front begins a run by itself or lengthens the one right behind it, and leaves
the others as they are. -/
theorem isRun_insert (h : ∀ i, P i → position < i) :
    IsRun (fun i => i = position ∨ P i) start stop ↔
      (start = position ∧ stop = position + 1 ∧ ¬ P (position + 1)) ∨
        (start = position ∧ IsRun P (position + 1) stop) ∨
        (IsRun P start stop ∧ start ≠ position + 1) := by
  have hnot : ∀ i, i ≤ position → ¬ P i := fun i hi hP => Nat.not_lt.mpr hi (h i hP)
  constructor
  · intro hrun
    have hlt := hrun.lt
    by_cases hstart : start = position
    · subst hstart
      by_cases hstop : stop = start + 1
      · subst hstop
        exact .inl ⟨rfl, rfl, fun hP => hrun.right (.inr hP)⟩
      · refine .inr (.inl ⟨rfl, by omega, fun i hi hi' => ?_, fun i hi => hnot i (by omega),
          fun hP => hrun.right (.inr hP)⟩)
        exact (hrun.all i (by omega) hi').resolve_left (by omega)
    · have hfirst : P start := (hrun.all start (Nat.le_refl _) hlt).resolve_left hstart
      have hposition := h start hfirst
      refine .inr (.inr ⟨⟨hlt, fun i hi hi' => ?_, fun i hi hP => hrun.left i hi (.inr hP),
        fun hP => hrun.right (.inr hP)⟩, fun heq => hrun.left position heq.symm (.inl rfl)⟩)
      exact (hrun.all i hi hi').resolve_left (by omega)
  · rintro (⟨rfl, rfl, hnext⟩ | ⟨rfl, hrun⟩ | ⟨hrun, hne⟩)
    · refine ⟨Nat.lt_succ_self _, fun i hi hi' => .inl (by omega), fun i hi => ?_, ?_⟩
      · exact not_or_intro (by omega) (hnot i (by omega))
      · exact not_or_intro (by omega) hnext
    · have hlt := hrun.lt
      refine ⟨by omega, fun i hi hi' => ?_, fun i hi => ?_, not_or_intro (by omega) hrun.right⟩
      · rcases Nat.eq_or_lt_of_le hi with heq | hgt
        · exact .inl heq.symm
        · exact .inr (hrun.all i hgt hi')
      · exact not_or_intro (by omega) (hnot i (by omega))
    · have hlt := hrun.lt
      have hposition := h start (hrun.all start (Nat.le_refl _) hlt)
      refine ⟨hlt, fun i hi hi' => .inr (hrun.all i hi hi'), fun i hi => ?_,
        not_or_intro (by omega) hrun.right⟩
      exact not_or_intro (by omega) (hrun.left i hi)

end Runs

/-! ## One after the other -/

/-- A word character in front of tokens and words begins or lengthens a word, and leaves the others
as they are. -/
theorem consWord_bounds {position stop : Nat} {rest : List Token} (hposition : position < stop)
    (h : ∀ token ∈ rest, position + 1 ≤ token.start ∧ token.start < token.stop ∧
      token.stop ≤ stop) {token : Token} (htoken : token ∈ consWord position rest) :
    position ≤ token.start ∧ token.start < token.stop ∧ token.stop ≤ stop := by
  have hword : position ≤ position ∧ position < position + 1 ∧ position + 1 ≤ stop := by omega
  have hothers : ∀ other ∈ rest,
      position ≤ other.start ∧ other.start < other.stop ∧ other.stop ≤ stop := by
    intro other hother
    have := h other hother
    omega
  unfold consWord at htoken
  split at htoken
  · rename_i start last rest
    split at htoken
    · rcases List.mem_cons.mp htoken with rfl | hmem
      · have := h _ List.mem_cons_self
        dsimp only at this ⊢
        omega
      · exact hothers token (List.mem_cons_of_mem _ hmem)
    · rcases List.mem_cons.mp htoken with rfl | hmem
      · exact hword
      · exact hothers token hmem
  · rcases List.mem_cons.mp htoken with rfl | hmem
    · exact hword
    · exact hothers token hmem

/-- Tokens and words lie between the two offsets that the steps tile, and none is empty. -/
theorem Tiles.tokensOf_bounds {start stop : Nat} {all : List Step} (h : Tiles start all stop)
    {token : Token} (htoken : token ∈ tokensOf all) :
    start ≤ token.start ∧ token.start < token.stop ∧ token.stop ≤ stop := by
  induction all generalizing start token with
  | nil => cases htoken
  | cons first rest ih =>
    have hfirst := h.bounds List.mem_cons_self
    obtain ⟨rfl, -, -, hrest⟩ := h
    have hothers : ∀ other ∈ tokensOf rest,
        first.start ≤ other.start ∧ other.start < other.stop ∧ other.stop ≤ stop := by
      intro other hother
      have := ih hrest hother
      omega
    rcases first with ⟨span, text⟩ | ⟨position, c⟩
    · rcases List.mem_cons.mp htoken with rfl | hmem
      · exact hfirst
      · exact hothers token hmem
    · rw [tokensOf] at htoken
      split at htoken
      · exact consWord_bounds (Nat.lt_of_lt_of_le hfirst.2.1 hfirst.2.2)
          (fun other => ih hrest) htoken
      · exact hothers token htoken

/-- A word character in front of tokens and words keeps them in order. -/
theorem pairwise_consWord {position : Nat} {rest : List Token}
    (hbounds : ∀ token ∈ rest, position + 1 ≤ token.start)
    (h : rest.Pairwise fun a b => a.stop ≤ b.start) :
    (consWord position rest).Pairwise fun a b => a.stop ≤ b.start := by
  unfold consWord
  split
  · obtain ⟨hfirst, hrest⟩ := List.pairwise_cons.mp h
    split
    · exact List.pairwise_cons.mpr ⟨hfirst, hrest⟩
    · exact List.pairwise_cons.mpr ⟨hbounds, h⟩
  · exact List.pairwise_cons.mpr ⟨hbounds, h⟩

/-- Tokens and words stand one after the other. -/
theorem Tiles.pairwise_tokensOf {start stop : Nat} {all : List Step} (h : Tiles start all stop) :
    (tokensOf all).Pairwise fun a b => a.stop ≤ b.start := by
  induction all generalizing start with
  | nil => exact .nil
  | cons first rest ih =>
    have hrest := h.2.2.2
    rcases first with ⟨span, text⟩ | ⟨position, c⟩
    · exact List.pairwise_cons.mpr ⟨fun token hmem => (hrest.tokensOf_bounds hmem).1, ih hrest⟩
    · rw [tokensOf]
      split
      · exact pairwise_consWord (fun token hmem => (hrest.tokensOf_bounds hmem).1) (ih hrest)
      · exact ih hrest

/-- Whether the character at an offset belongs to a token or a word. -/
def Token.Covers (token : Token) (offset : Nat) : Prop :=
  token.start ≤ offset ∧ offset < token.stop

instance (token : Token) (offset : Nat) : Decidable (token.Covers offset) :=
  inferInstanceAs (Decidable (_ ∧ _))

/-- No character belongs to two tokens or words. -/
theorem Tiles.eq_of_covers {start stop i : Nat} {all : List Step} (h : Tiles start all stop)
    {a b : Token} (ha : a ∈ tokensOf all) (hb : b ∈ tokensOf all) (hai : a.Covers i)
    (hbi : b.Covers i) : a = b := by
  refine List.Pairwise.forall_of_forall_of_flip (R := fun a b => a.Covers i → b.Covers i → a = b)
    (fun _ _ _ _ => rfl) ?_ ?_ ha hb hai hbi
  · refine h.pairwise_tokensOf.imp fun hab ha hb => ?_
    have := ha.2
    have := hb.1
    omega
  · refine h.pairwise_tokensOf.imp fun hab hb ha => ?_
    have := ha.2
    have := hb.1
    omega

/-! ## What tokens and words there are -/

theorem mem_consWord_some {position start stop : Nat} {rule : Rule} {rest : List Token} :
    ⟨start, stop, some rule⟩ ∈ consWord position rest ↔ ⟨start, stop, some rule⟩ ∈ rest := by
  unfold consWord
  split
  · split <;> simp
  · simp

/-- The tokens that are no words are those that rules have claimed. -/
theorem mem_tokensOf_some {start stop : Nat} {rule : Rule} {all : List Step} :
    ⟨start, stop, some rule⟩ ∈ tokensOf all ↔
      ⟨start, stop, rule⟩ ∈ all.filterMap Step.span? := by
  induction all with
  | nil => simp [tokensOf]
  | cons first rest ih =>
    rcases first with ⟨span, text⟩ | ⟨position, c⟩
    · have hspans : (Step.token span text :: rest).filterMap Step.span? =
          span :: rest.filterMap Step.span? := rfl
      rw [tokensOf, hspans, List.mem_cons, List.mem_cons, ih]
      rcases span with ⟨first, last, other⟩
      simp
    · have hspans : (Step.plain position c :: rest).filterMap Step.span? =
          rest.filterMap Step.span? := rfl
      rw [tokensOf, hspans, ← ih]
      split
      · exact mem_consWord_some
      · rfl

/-- The words after one more word character: it is a word by itself, or lengthens the word right
behind it, and all other words stay. -/
theorem mem_consWord_none {position start stop : Nat} {rest : List Token}
    (hbounds : ∀ token ∈ rest, position + 1 ≤ token.start ∧ token.start < token.stop)
    (h : rest.Pairwise fun a b => a.stop ≤ b.start) :
    ⟨start, stop, none⟩ ∈ consWord position rest ↔
      (start = position ∧ stop = position + 1 ∧ ∀ last, ⟨position + 1, last, none⟩ ∉ rest) ∨
        (start = position ∧ ⟨position + 1, stop, none⟩ ∈ rest) ∨
        (⟨start, stop, none⟩ ∈ rest ∧ start ≠ position + 1) := by
  rcases rest with _ | ⟨⟨first, last, rule⟩, rest⟩
  · simp [consWord]
  obtain ⟨hfirst, -⟩ := List.pairwise_cons.mp h
  have hbounds_first := hbounds _ List.mem_cons_self
  dsimp only at hfirst hbounds_first
  -- What comes after the first token or word begins further on.
  have hlater : ∀ token ∈ rest, position + 1 < token.start := fun token hmem => by
    have := hfirst token hmem
    omega
  have hno : ∀ last, ⟨position + 1, last, none⟩ ∉ rest := fun last hmem =>
    Nat.lt_irrefl _ (hlater _ hmem)
  by_cases hjoin : first = position + 1 ∧ rule = none
  · obtain ⟨rfl, rfl⟩ := hjoin
    have hword : consWord position (⟨position + 1, last, none⟩ :: rest) =
        ⟨position, last, none⟩ :: rest := if_pos rfl
    rw [hword]
    simp only [List.mem_cons, Token.mk.injEq]
    grind
  · have hword : consWord position (⟨first, last, rule⟩ :: rest) =
        ⟨position, position + 1, none⟩ :: ⟨first, last, rule⟩ :: rest := by
      unfold consWord
      split
      · rename_i heq
        grind
      · rfl
    rw [hword]
    simp only [List.mem_cons, Token.mk.injEq]
    grind

/-- Whether a step goes past a word character at an offset, as a plain one. -/
def IsWordStep (all : List Step) (offset : Nat) : Prop :=
  ∃ c, Step.plain offset c ∈ all ∧ isIdentifier c

theorem Tiles.of_isWordStep {start stop i : Nat} {all : List Step} (h : Tiles start all stop)
    (hi : IsWordStep all i) : start ≤ i ∧ i < stop := by
  obtain ⟨c, hmem, -⟩ := hi
  have hbounds := h.bounds hmem
  exact ⟨hbounds.1, hbounds.2.2⟩

/-- A plain word character in front of steps is one more. -/
theorem isWordStep_cons_plain {position : Nat} {c : Char} (hc : isIdentifier c)
    {rest : List Step} {i : Nat} :
    IsWordStep (.plain position c :: rest) i ↔ i = position ∨ IsWordStep rest i := by
  constructor
  · rintro ⟨d, hmem, hd⟩
    rcases List.mem_cons.mp hmem with heq | hmem
    · exact .inl (Step.plain.inj heq).1
    · exact .inr ⟨d, hmem, hd⟩
  · rintro (rfl | ⟨d, hmem, hd⟩)
    · exact ⟨c, List.mem_cons_self, hc⟩
    · exact ⟨d, List.mem_cons_of_mem _ hmem, hd⟩

/-- Any other step in front of steps adds no word character. -/
theorem isWordStep_cons_other {first : Step} {rest : List Step} {i : Nat}
    (h : ∀ position c, first = .plain position c → isIdentifier c = false) :
    IsWordStep (first :: rest) i ↔ IsWordStep rest i := by
  constructor
  · rintro ⟨c, hmem, hc⟩
    rcases List.mem_cons.mp hmem with heq | hmem
    · rw [h i c heq.symm] at hc
      cases hc
    · exact ⟨c, hmem, hc⟩
  · rintro ⟨c, hmem, hc⟩
    exact ⟨c, List.mem_cons_of_mem _ hmem, hc⟩

/-- **Words are the longest runs of plain word characters.** -/
theorem Tiles.mem_tokensOf_none {start stop : Nat} {all : List Step} (h : Tiles start all stop)
    {first last : Nat} :
    ⟨first, last, none⟩ ∈ tokensOf all ↔ IsRun (IsWordStep all) first last := by
  induction all generalizing start first last with
  | nil =>
    refine iff_of_false List.not_mem_nil fun hrun => ?_
    obtain ⟨c, hmem, -⟩ := hrun.all first (Nat.le_refl _) hrun.lt
    cases hmem
  | cons step rest ih =>
    obtain ⟨rfl, -, -, hrest⟩ := h
    by_cases hword : ∃ position c, step = .plain position c ∧ isIdentifier c
    · obtain ⟨position, c, rfl, hc⟩ := hword
      have hafter : ∀ i, IsWordStep rest i → position < i := fun i hi => (hrest.of_isWordStep hi).1
      -- A word begins right behind the character exactly if a word character is there.
      have hnext : (∀ last, ⟨position + 1, last, none⟩ ∉ tokensOf rest) ↔
          ¬ IsWordStep rest (position + 1) := by
        constructor
        · intro hnone hi
          obtain ⟨begins, ends, hle, hlt, hrun⟩ :=
            exists_isRun (fun i hi => (hrest.of_isWordStep hi).2) hi
          have := hafter begins (hrun.all begins (Nat.le_refl _) hrun.lt)
          obtain rfl : begins = position + 1 := by omega
          exact hnone ends ((ih hrest).mpr hrun)
        · intro hi ends hmem
          have hrun := (ih hrest).mp hmem
          exact hi (hrun.all _ (Nat.le_refl _) hrun.lt)
      rw [tokensOf, if_pos hc,
        mem_consWord_none (fun token hmem => (hrest.tokensOf_bounds hmem).imp_right And.left)
          hrest.pairwise_tokensOf,
        hnext, ih hrest, ih hrest, IsRun.congr fun i => isWordStep_cons_plain hc,
        isRun_insert hafter]
    · rw [IsRun.congr fun i => isWordStep_cons_other fun position c heq => ?_, ← ih hrest]
      · rcases step with ⟨span, text⟩ | ⟨position, c⟩
        · simp [tokensOf]
        · rw [tokensOf, if_neg fun hc => hword ⟨position, c, rfl, hc⟩]
      · rw [← Bool.not_eq_true]
        exact fun hc => hword ⟨position, c, heq, hc⟩

/-- A caret finds one of the tokens and words of the text. -/
theorem mem_tokens_of_tokenAt {rules : List Rule} {text : Text} {caret : Nat} {token : Token}
    (h : tokenAt rules text caret = some token) : token ∈ tokens rules text := by
  rcases Option.or_eq_some_iff.mp h with hfind | ⟨-, hfind⟩ <;>
    exact List.mem_of_find?_eq_some hfind

/-! ## In one pass -/

/-- What one pass over the steps has gathered: the tokens and words, the last one first, and where
the last word ends, if it may still go on. -/
structure Gathering where
  found : List Token
  openEnd : Option Nat

namespace Gathering

/-- Moves the end of the token found last. -/
def extendLast (stop : Nat) : List Token → List Token
  | last :: earlier => { last with stop := stop } :: earlier
  | [] => []

/-- Goes past a step. A word character right behind the open word lengthens it. -/
def pass (gathering : Gathering) : Step → Gathering
  | .token span _ => ⟨⟨span.start, span.stop, some span.rule⟩ :: gathering.found, none⟩
  | .plain position c =>
    if isIdentifier c then
      if gathering.openEnd = some position then
        ⟨extendLast (position + 1) gathering.found, some (position + 1)⟩
      else ⟨⟨position, position + 1, none⟩ :: gathering.found, some (position + 1)⟩
    else ⟨gathering.found, none⟩

variable {c : Char} {position : Nat}

theorem pass_word_closed (hc : isIdentifier c) (found : List Token) :
    pass ⟨found, none⟩ (.plain position c) =
      ⟨⟨position, position + 1, none⟩ :: found, some (position + 1)⟩ := if_pos hc

theorem pass_word_open (hc : isIdentifier c) (first : Nat) (earlier : List Token) :
    pass ⟨⟨first, position, none⟩ :: earlier, some position⟩ (.plain position c) =
      ⟨⟨first, position + 1, none⟩ :: earlier, some (position + 1)⟩ := by
  rw [pass, if_pos hc, if_pos rfl]
  rfl

theorem pass_other (hc : ¬ isIdentifier c) (gathering : Gathering) :
    pass gathering (.plain position c) = ⟨gathering.found, none⟩ := if_neg hc

end Gathering

/-- The tokens and words among steps, gathered in one pass. -/
def gather (all : List Step) : List Token := (all.foldl Gathering.pass ⟨[], none⟩).found.reverse

/-- Puts a word in front of tokens and words: it joins a word that starts right behind it. -/
def joinWord (start stop : Nat) : List Token → List Token
  | ⟨next, last, none⟩ :: rest =>
    if next = stop then ⟨start, last, none⟩ :: rest
    else ⟨start, stop, none⟩ :: ⟨next, last, none⟩ :: rest
  | rest => ⟨start, stop, none⟩ :: rest

theorem consWord_eq_joinWord (position : Nat) (rest : List Token) :
    consWord position rest = joinWord position (position + 1) rest := rfl

/-- A word that is open lengthens by one character after the other. -/
theorem joinWord_consWord (start position : Nat) (rest : List Token) :
    joinWord start position (consWord position rest) = joinWord start (position + 1) rest := by
  rcases rest with _ | ⟨⟨next, last, _ | rule⟩, rest⟩
  · exact if_pos rfl
  · by_cases hnext : next = position + 1
    · rw [consWord, if_pos hnext, joinWord, if_pos rfl, joinWord, if_pos hnext]
    · rw [consWord, if_neg hnext, joinWord, if_pos rfl, joinWord, if_neg hnext]
  · exact if_pos rfl

/-- A word character in front of a word joins it, also where the word has joined another one. -/
theorem consWord_joinWord (position stop : Nat) (rest : List Token) :
    consWord position (joinWord (position + 1) stop rest) = joinWord position stop rest := by
  rcases rest with _ | ⟨⟨next, last, _ | rule⟩, rest⟩
  · exact if_pos rfl
  · by_cases hnext : next = stop
    · rw [joinWord, if_pos hnext, consWord, if_pos rfl, joinWord, if_pos hnext]
    · rw [joinWord, if_neg hnext, consWord, if_pos rfl, joinWord, if_neg hnext]
  · exact if_pos rfl

/-- A word that no other begins right behind stays as it is. -/
theorem joinWord_of_not_mem {start stop : Nat} {rest : List Token}
    (h : ∀ last, ⟨stop, last, none⟩ ∉ rest) :
    joinWord start stop rest = ⟨start, stop, none⟩ :: rest := by
  rcases rest with _ | ⟨⟨next, last, _ | rule⟩, rest⟩
  · rfl
  · refine if_neg ?_
    rintro rfl
    exact h last List.mem_cons_self
  · rfl

theorem joinWord_of_lt {start stop : Nat} {rest : List Token}
    (h : ∀ token ∈ rest, stop < token.start) :
    joinWord start stop rest = ⟨start, stop, none⟩ :: rest :=
  joinWord_of_not_mem fun _ hmem => Nat.lt_irrefl _ (h _ hmem)

/-- The invariant of the pass: what is found so far comes before the tokens and words ahead, and a
word that is open joins the one that begins where it ends. -/
theorem Tiles.foldl_pass {start stop : Nat} {all : List Step} (h : Tiles start all stop) :
    (∀ found, (all.foldl Gathering.pass ⟨found, none⟩).found.reverse =
      found.reverse ++ tokensOf all) ∧
    ∀ first earlier,
      (all.foldl Gathering.pass ⟨⟨first, start, none⟩ :: earlier, some start⟩).found.reverse =
        earlier.reverse ++ joinWord first start (tokensOf all) := by
  induction all generalizing start with
  | nil =>
    refine ⟨fun found => (List.append_nil _).symm, fun first earlier => ?_⟩
    rw [List.foldl_nil, List.reverse_cons]
    rfl
  | cons step rest ih =>
    obtain ⟨rfl, -, -, hrest⟩ := h
    obtain ⟨hclosed, hopen⟩ := ih hrest
    rcases step with ⟨span, text⟩ | ⟨position, c⟩ <;> dsimp only [Step.start, Step.stop] at *
    · constructor
      · intro found
        rw [List.foldl_cons, Gathering.pass, hclosed, List.reverse_cons, List.append_assoc]
        rfl
      · intro first earlier
        rw [List.foldl_cons, Gathering.pass, hclosed, List.reverse_cons, List.reverse_cons,
          List.append_assoc, List.append_assoc]
        rfl
    · by_cases hc : isIdentifier c
      · rw [tokensOf, if_pos hc]
        constructor
        · intro found
          rw [List.foldl_cons, Gathering.pass_word_closed hc, hopen, consWord_eq_joinWord]
        · intro first earlier
          rw [List.foldl_cons, Gathering.pass_word_open hc, hopen, joinWord_consWord]
      · rw [tokensOf, if_neg hc]
        constructor
        · intro found
          rw [List.foldl_cons, Gathering.pass_other hc, hclosed]
        · intro first earlier
          rw [List.foldl_cons, Gathering.pass_other hc, hclosed, List.reverse_cons,
            List.append_assoc, joinWord_of_lt fun token hmem => (hrest.tokensOf_bounds hmem).1]
          rfl

/-- **One pass is enough** to find all tokens and words. -/
theorem gather_steps (rules : List Rule) (text : Text) :
    gather (steps rules text) = tokens rules text := by
  rw [gather, steps, (tiles_stepsFrom rules none 0 text).foldl_pass.1]
  rfl

end Highlighter
