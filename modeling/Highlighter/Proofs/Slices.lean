import Highlighter.CommandLine.Run
import Highlighter.Proofs.Words

/-!
# Parts of the source

A listing cuts the texts of tokens out of the source. Here a part can be cut out only at offsets
that follow each other in the source, and a listing that tries to cut it out elsewhere stops
without an outcome. None does.

* `Text.slice?`, `Text.slice?_clamped`: the part between two offsets, if there is one, and that
  there is one between any two that are brought into the text.
* `Tiles.slice?_text`: the part between the offsets of a step is the text that it goes past.
* `tokenListing?`, `caretListing?`: listings that may stop; by `tokenListing?_eq` and
  `caretListing?_eq` they do not.
-/

namespace Highlighter

/-! ## Offsets that can be cut at -/

/-- The part between two offsets of a text, the first of which is not behind the second. -/
def Text.slice? (text : Text) (start stop : Nat) : Option Text :=
  if start ≤ stop ∧ stop ≤ text.length then some (slice text start stop) else none

theorem Text.slice?_eq {text : Text} {start stop : Nat} (h : start ≤ stop)
    (hstop : stop ≤ text.length) : text.slice? start stop = some (text.slice start stop) :=
  if_pos ⟨h, hstop⟩

theorem Text.slice_min_length (text : Text) (start stop : Nat) :
    text.slice start (min stop text.length) = text.slice start stop := by
  rw [slice, slice, List.take_eq_take_iff, List.length_drop]
  omega

theorem Text.slice_min_stop (text : Text) (start stop : Nat) :
    text.slice (min start stop) stop = text.slice start stop := by
  rcases Nat.le_total start stop with h | h
  · rw [Nat.min_eq_left h]
  · rw [Nat.min_eq_right h, slice, slice, Nat.sub_self, Nat.sub_eq_zero_of_le h, List.take_zero,
      List.take_zero]

/-- A part can be cut out between any two offsets, once they are brought into the text. -/
theorem Text.slice?_clamped (text : Text) (start stop : Nat) :
    text.slice? (min start (min stop text.length)) (min stop text.length) =
      some (text.slice start stop) := by
  rw [slice?_eq (Nat.min_le_right _ _) (Nat.min_le_right _ _), slice_min_stop, slice_min_length]

/-- What stands between two texts is cut out at the offsets where they meet it. -/
theorem Text.slice?_append (before middle after : Text) :
    slice? (before ++ (middle ++ after)) before.length (before.length + middle.length) =
      some middle := by
  rw [slice?_eq (Nat.le_add_right _ _) (by simp only [List.length_append]; omega), slice,
    List.drop_left, Nat.add_sub_cancel_left, List.take_left]

/-- **The part between the offsets of a step** is the text that the step goes past. -/
theorem Tiles.slice?_text {start stop : Nat} {all : List Step} (h : Tiles start all stop)
    {before : Text} (hbefore : before.length = start) {step : Step} (hstep : step ∈ all) :
    Text.slice? (before ++ all.flatMap Step.text) step.start step.stop = some step.text := by
  induction all generalizing start before with
  | nil => cases hstep
  | cons first rest ih =>
    obtain ⟨hstart, -, hstop, hrest⟩ := h
    rw [← hbefore] at hstart
    rw [List.flatMap_cons]
    rcases List.mem_cons.mp hstep with rfl | hmem
    · rw [hstop, hstart]
      exact Text.slice?_append before step.text _
    · rw [← List.append_assoc]
      refine ih hrest ?_ hmem
      rw [List.length_append, hstop, hstart]

theorem slice?_of_mem_steps {rules : List Rule} {source : Text} {step : Step}
    (h : step ∈ steps rules source) :
    source.slice? step.start step.stop = some step.text := by
  have hbefore : ([] : Text).length = 0 := rfl
  have hslice := (tiles_steps rules source).slice?_text hbefore h
  rwa [List.nil_append, flatMap_text_steps] at hslice

/-- The token at a caret can be cut out, wherever the caret is. -/
theorem slice?_of_tokenAt {rules : List Rule} {source : Text} {caret : Nat} {token : Token}
    (h : tokenAt rules source caret = some token) :
    source.slice? token.start token.stop = some (token.text source) := by
  have hbounds := (tiles_steps rules source).tokensOf_bounds (mem_tokens_of_tokenAt h)
  exact Text.slice?_eq (Nat.le_of_lt hbounds.2.1) hbounds.2.2

/-! ## Listings that may stop -/

/-- The line for a token, if it can be cut out. -/
def Span.listing? (source : Text) (span : Span) : Option Text :=
  (source.slice? span.start span.stop).map span.listing

/-- The listing of all tokens, if every one of them can be cut out. -/
def tokenListing? (source : Text) : Option Text :=
  ((spans Rule.priority source).mapM (Span.listing? source)).map List.flatten

/-- The listing of the token at a caret, if it can be cut out. -/
def caretListing? (source : Text) (caret : Nat) : Option Text :=
  match tokenAt Rule.priority source caret with
  | some token => (source.slice? token.start token.stop).map fun text =>
    Text.decimal token.start ++ "..".toList ++ Text.decimal token.stop ++ [' ']
      ++ token.form.toList ++ [' '] ++ quote text ++ ['\n']
  | none => some ("no token at ".toList ++ Text.decimal caret ++ ['\n'])

theorem caretListing?_eq (source : Text) (caret : Nat) :
    caretListing? source caret = some (caretListing source caret) := by
  unfold caretListing? caretListing
  cases htoken : tokenAt Rule.priority source caret with
  | none => rfl
  | some token =>
    dsimp only
    rw [slice?_of_tokenAt htoken]
    rfl

theorem mapM_listing?_eq {source : Text} {all : List Step}
    (h : ∀ step ∈ all, source.slice? step.start step.stop = some step.text) :
    ((all.filterMap Step.span?).mapM (Span.listing? source)).map List.flatten =
      some (all.flatMap fun
        | .token span text => span.listing text
        | .plain .. => []) := by
  induction all with
  | nil => rfl
  | cons step all ih =>
    have hall := ih fun other hother => h other (List.mem_cons_of_mem _ hother)
    rcases step with ⟨span, text⟩ | ⟨position, c⟩
    · have hspan : span.listing? source = some (span.listing text) :=
        congrArg (Option.map span.listing) (h _ List.mem_cons_self)
      obtain ⟨lines, hlines, hflat⟩ := Option.map_eq_some_iff.mp hall
      rw [List.flatMap_cons, ← hflat]
      show (List.mapM (Span.listing? source) (span :: all.filterMap Step.span?)).map _ = _
      rw [List.mapM_cons, hspan, hlines]
      rfl
    · exact hall

theorem tokenListing?_eq (source : Text) :
    tokenListing? source = some (tokenListing source) :=
  mapM_listing?_eq fun _ => slice?_of_mem_steps

end Highlighter
