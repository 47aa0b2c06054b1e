import Highlighter.Proofs.Invocation

/-!
# The order of arguments

An argument list can be divided into phrases in one way only. What a row of phrases says of each
thing is settled by those of its phrases that say something of it, so phrases on different things
can change places.

* `Subject`, `Phrase.subject`: what a phrase says something of.
* `written_injective`: no two rows of phrases are written alike.
* `Options.after_eq_of_filter_eq`: the phrases on each subject settle the options.
* `Reordered`: the same phrases in another order, but not those on the same subject.
* `run_reordered`: arguments that are understood can be put in such an order.
-/

namespace Highlighter

/-! ## Dividing a list into phrases -/

deriving instance DecidableEq for Phrase

namespace Phrase

/-- The form of the first word of a phrase. -/
def form : Phrase → Argument
  | markup .ansi => .ansi
  | markup .richText => .richText
  | tokens => .tokens
  | strip => .strip
  | tokenAt .. => .tokenAt
  | config _ => .config
  | file .. => .file

theorem ofString_head_words (phrase : Phrase) (rest : List String) :
    (phrase.words ++ rest).head?.map Argument.ofString = some phrase.form := by
  cases phrase with
  | markup choice => cases choice <;> rfl
  | tokens | strip | tokenAt value caret valid | config path => rfl
  | file name plain => exact congrArg some (Argument.ofString_of_plain plain)

/-- Of arguments that begin with a phrase, the phrase and the rest can be told. -/
theorem words_append_inj {phrase other : Phrase} {rest after : List String}
    (h : phrase.words ++ rest = other.words ++ after) : phrase = other ∧ rest = after := by
  have hform : phrase.form = other.form := by
    rw [← Option.some.injEq, ← ofString_head_words phrase rest, h, ofString_head_words]
  rcases phrase with (_ | _) | _ | _ | ⟨value, caret, valid⟩ | path | ⟨name, plain⟩ <;>
    rcases other with (_ | _) | _ | _ | ⟨value', caret', valid'⟩ | path' | ⟨name', plain'⟩ <;>
    try (cases hform; done)
  case markup.ansi.markup.ansi | markup.richText.markup.richText | tokens.tokens | strip.strip =>
    exact ⟨rfl, (List.cons.inj h).2⟩
  case tokenAt.tokenAt =>
    obtain ⟨rfl, rfl⟩ := List.cons.inj (List.cons.inj h).2
    obtain rfl := Option.some.inj (valid.symm.trans valid')
    exact ⟨rfl, rfl⟩
  case config.config =>
    obtain ⟨rfl, rfl⟩ := List.cons.inj (List.cons.inj h).2
    exact ⟨rfl, rfl⟩
  case file.file =>
    obtain ⟨rfl, rfl⟩ := List.cons.inj h
    exact ⟨rfl, rfl⟩

end Phrase

/-- **Arguments are divided into phrases in one way.** -/
theorem written_injective {phrases others : List Phrase} (h : written phrases = written others) :
    phrases = others := by
  induction phrases generalizing others with
  | nil =>
    rcases others with _ | ⟨other, others⟩
    · rfl
    · have hlen := congrArg List.length h
      have hpos := other.length_words_pos
      rw [written_cons, List.length_append] at hlen
      exact absurd hlen.symm (Nat.ne_of_gt (Nat.add_pos_left hpos _))
  | cons phrase phrases ih =>
    rcases others with _ | ⟨other, others⟩
    · have hlen := congrArg List.length h
      have hpos := phrase.length_words_pos
      rw [written_cons, List.length_append] at hlen
      exact absurd hlen (Nat.ne_of_gt (Nat.add_pos_left hpos _))
    · obtain ⟨rfl, hrest⟩ := Phrase.words_append_inj h
      rw [ih hrest]

/-! ## What phrases are about -/

/-- The things that arguments can say something of. -/
inductive Subject where
  | markup
  | tokens
  | strip
  | caret
  | config
  | file
deriving DecidableEq, Repr

/-- What a phrase says something of. -/
def Phrase.subject : Phrase → Subject
  | markup _ => .markup
  | tokens => .tokens
  | strip => .strip
  | tokenAt .. => .caret
  | config _ => .config
  | file .. => .file

/-- Whether two options are the same on a subject. -/
def Options.Agree (a b : Options) : Subject → Prop
  | .markup => a.markup = b.markup
  | .tokens => a.tokens = b.tokens
  | .strip => a.strip = b.strip
  | .caret => a.caret = b.caret
  | .config => a.config = b.config
  | .file => a.file = b.file

namespace Options

variable {a b c : Options} {subject : Subject} {phrase : Phrase} {phrases others : List Phrase}

theorem Agree.refl (a : Options) (subject : Subject) : a.Agree a subject := by
  cases subject <;> rfl

theorem Agree.symm (h : a.Agree b subject) : b.Agree a subject := by
  cases subject <;> exact Eq.symm h

theorem Agree.trans (h : a.Agree b subject) (h' : b.Agree c subject) : a.Agree c subject := by
  cases subject <;> exact Eq.trans h h'

/-- Options that are the same on all subjects are the same. -/
theorem eq_of_agree (h : ∀ subject, a.Agree b subject) : a = b := by
  obtain ⟨file, config, markup, tokens, strip, caret⟩ := a
  obtain rfl : file = b.file := h .file
  obtain rfl : config = b.config := h .config
  obtain rfl : markup = b.markup := h .markup
  obtain rfl : tokens = b.tokens := h .tokens
  obtain rfl : strip = b.strip := h .strip
  obtain rfl : caret = b.caret := h .caret
  rfl

/-- A phrase changes nothing but what it is about. -/
theorem agree_apply_of_ne (h : phrase.subject ≠ subject) :
    (phrase.apply a).Agree a subject := by
  cases phrase <;> cases subject <;> first | rfl | exact absurd rfl h

/-- What a phrase changes does not depend on what has been said before. -/
theorem Agree.apply (h : a.Agree b subject) (phrase : Phrase) :
    (phrase.apply a).Agree (phrase.apply b) subject := by
  cases phrase <;> cases subject <;> first | rfl | exact h

/-- On each subject a row of phrases says what those of its phrases say that are about it. -/
theorem Agree.after_filter (h : a.Agree b subject) (phrases : List Phrase) :
    (a.after phrases).Agree (b.after (phrases.filter (·.subject = subject))) subject := by
  induction phrases generalizing a b with
  | nil => exact h
  | cons phrase phrases ih =>
    rw [after_cons]
    by_cases hsubject : phrase.subject = subject
    · rw [List.filter_cons_of_pos (by simpa using hsubject), after_cons]
      exact ih (h.apply phrase)
    · rw [List.filter_cons_of_neg (by simpa using hsubject)]
      exact ih ((agree_apply_of_ne hsubject).trans h)

/-- **The phrases on each subject settle the options.** -/
theorem after_eq_of_filter_eq (options : Options)
    (h : ∀ subject, phrases.filter (·.subject = subject) = others.filter (·.subject = subject)) :
    options.after phrases = options.after others := by
  refine eq_of_agree fun subject => ?_
  have hphrases := (Agree.refl options subject).after_filter phrases
  have hothers := (Agree.refl options subject).after_filter others
  rw [← h subject] at hothers
  exact hphrases.trans hothers.symm

end Options

/-! ## Other orders -/

/-- The same phrases in another order, in which no two phrases have changed places that are both
about the markup, both about the caret or both about the file with the settings. -/
structure Reordered (phrases others : List Phrase) : Prop where
  perm : phrases.Perm others
  order : ∀ subject ∈ [Subject.markup, .caret, .config],
    phrases.filter (·.subject = subject) = others.filter (·.subject = subject)

instance (phrases others : List Phrase) : Decidable (Reordered phrases others) :=
  decidable_of_iff (phrases.Perm others ∧ ∀ subject ∈ [Subject.markup, .caret, .config],
      phrases.filter (·.subject = subject) = others.filter (·.subject = subject))
    ⟨fun ⟨hperm, horder⟩ => ⟨hperm, horder⟩, fun h => ⟨h.perm, h.order⟩⟩

theorem eq_of_perm_of_forall_eq {α : Type} {list other : List α} {a : α} (h : list.Perm other)
    (ha : ∀ b ∈ list, b = a) : list = other := by
  rw [List.eq_replicate_of_mem ha,
    List.eq_replicate_of_mem fun b hb => ha b (h.mem_iff.mpr hb), h.length_eq]

theorem countP_isFile_eq (phrases : List Phrase) :
    phrases.countP Phrase.isFile = (phrases.filter (·.subject = .file)).length := by
  rw [List.countP_eq_length_filter]
  congr 2
  funext phrase
  cases phrase <;> rfl

namespace Reordered

variable {phrases others : List Phrase} (h : Reordered phrases others)
include h

theorem countP_isFile : others.countP Phrase.isFile = phrases.countP Phrase.isFile :=
  (h.perm.countP_eq _).symm

/-- Of a row that names no second file, the phrases on every subject stay in order: all that say
that tokens are to be listed are alike, and all that say that markup is to be removed. -/
theorem filter_eq (hfile : phrases.countP Phrase.isFile ≤ 1) (subject : Subject) :
    phrases.filter (·.subject = subject) = others.filter (·.subject = subject) := by
  have hperm := h.perm.filter (·.subject = subject)
  cases subject with
  | markup | caret | config => exact h.order _ (by decide)
  | tokens =>
    refine eq_of_perm_of_forall_eq (a := .tokens) hperm fun phrase hphrase => ?_
    have hsubject := of_decide_eq_true (List.mem_filter.mp hphrase).2
    cases phrase <;> first | rfl | cases hsubject
  | strip =>
    refine eq_of_perm_of_forall_eq (a := .strip) hperm fun phrase hphrase => ?_
    have hsubject := of_decide_eq_true (List.mem_filter.mp hphrase).2
    cases phrase <;> first | rfl | cases hsubject
  | file =>
    rw [countP_isFile_eq] at hfile
    rcases hfiles : phrases.filter (·.subject = .file) with _ | ⟨first, _ | ⟨second, files⟩⟩
    · rw [hfiles] at hperm ⊢
      exact hperm.nil_eq
    · rw [hfiles] at hperm ⊢
      exact hperm.singleton_eq
    · rw [hfiles] at hfile
      exact absurd (Nat.le_of_succ_le_succ hfile) (Nat.not_succ_le_zero _)

end Reordered

/-- **Arguments can be put in another order.** Arguments that are understood are divided into
phrases in one way. Any order of these in which phrases that override each other do not change
places is understood as the same options, and such an invocation ends alike whatever it finds around
it. -/
theorem run_reordered {arguments : List String} {options : Options}
    (hparse : Options.parse arguments = .ok options) :
    ∃ phrases, written phrases = arguments ∧
      (∀ others, written others = arguments → others = phrases) ∧
      ∀ others, Reordered phrases others →
        Options.parse (written others) = .ok options ∧
          ∀ environment : Environment,
            environment.run (written others) = environment.run arguments := by
  obtain ⟨phrases, rfl, hcount, rfl⟩ := Options.parse_eq_ok_iff.mp hparse
  refine ⟨phrases, rfl, fun others => written_injective, fun others hreordered => ?_⟩
  have hreads : Options.Reads (written others) (Options.none.after phrases) :=
    ⟨others, rfl, by rwa [hreordered.countP_isFile],
      Options.after_eq_of_filter_eq _ (hreordered.filter_eq hcount)⟩
  refine ⟨hreads.parse_eq, fun environment => ?_⟩
  have hasks := (Options.parse_eq_ok_iff.mp hparse).not_asksForText
  rw [Environment.run_of_not_asksForText hreads.not_asksForText,
    Environment.run_of_not_asksForText hasks, Environment.attempt, Environment.attempt, hparse,
    hreads.parse_eq]

/-- A path that reads like an option and carets stay with their options, and the last markup and the
last caret stay last. -/
theorem run_reordered_values :
    Options.parse ["--config", "--help", "--ansi", "--token-at", "+3", "a.cs", "--rich-text",
        "--token-at", "7"] =
      .ok ⟨some "a.cs", some "--help", some .richText, false, false, some 7⟩ ∧
    Options.parse ["--token-at", "+3", "--ansi", "--token-at", "7", "--rich-text", "a.cs",
        "--config", "--help"] =
      .ok ⟨some "a.cs", some "--help", some .richText, false, false, some 7⟩ ∧
    ∀ environment : Environment,
      environment.run ["--token-at", "+3", "--ansi", "--token-at", "7", "--rich-text", "a.cs",
          "--config", "--help"] =
        environment.run ["--config", "--help", "--ansi", "--token-at", "+3", "a.cs", "--rich-text",
          "--token-at", "7"] := by
  have hparse : Options.parse ["--config", "--help", "--ansi", "--token-at", "+3", "a.cs",
      "--rich-text", "--token-at", "7"] =
        .ok ⟨some "a.cs", some "--help", some .richText, false, false, some 7⟩ := rfl
  obtain ⟨phrases, -, hunique, hrun⟩ := run_reordered hparse
  obtain rfl := hunique [.config "--help", .markup .ansi, .tokenAt "+3" 3 rfl,
    .file "a.cs" (by decide), .markup .richText, .tokenAt "7" 7 rfl] rfl
  exact ⟨hparse, hrun [.tokenAt "+3" 3 rfl, .markup .ansi, .tokenAt "7" 7 rfl, .markup .richText,
    .file "a.cs" (by decide), .config "--help"] (by decide)⟩

end Highlighter
