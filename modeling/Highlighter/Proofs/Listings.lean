import Highlighter.Proofs.Appearance
import Highlighter.Proofs.Invocation
import Highlighter.Proofs.Unquoting

/-!
# Reading listings

The listing of a text has one line for each token, and everything that the line shows can be read
from it. The columns are filled up with spaces, but an offset or a name that is wider than its column
is followed by a dot or a space all the same.

* `Entry`, `Entry.ofLine?`: what a line shows, and a reader for lines.
* `Span.line`, `Entry.ofLine?_line`: a line is read as the token that it was written for.
* `tokenListing_eq`: a listing is its lines, one for each token.
* `run_tokens_listing`: what an invocation lists is read back as the tokens of the source.
-/

namespace Highlighter

/-! ## The reader -/

/-- What the line for a token shows: its offsets, the name of its type, and its text. -/
structure Entry where
  start : Nat
  stop : Nat
  type : Text
  text : Text
deriving DecidableEq, Repr

/-- A text without the spaces at its start. -/
def skipSpaces (text : Text) : Text := text.dropWhile (· = ' ')

/-- The number that a text begins with, and what follows it. -/
def readDecimal? (text : Text) : Option (Nat × Text) :=
  (decimal? (text.takeWhile Char.isDigit)).map fun n => (n, text.dropWhile Char.isDigit)

/-- What follows the dots that a text begins with. -/
def afterDots? : Text → Option Text
  | '.' :: '.' :: rest => some rest
  | _ => none

theorem afterDots?_dots (rest : Text) : afterDots? ('.' :: '.' :: rest) = some rest := rfl

/-- Reads a line: two numbers with dots between them, a name, and a text between quotes. -/
def Entry.ofLine? (line : Text) : Option Entry := do
  let (start, rest) ← readDecimal? (skipSpaces line)
  let (stop, rest) ← readDecimal? (← afterDots? rest)
  let rest := skipSpaces rest
  let text ← unquote? (skipSpaces (rest.dropWhile (· ≠ ' ')))
  return ⟨start, stop, rest.takeWhile (· ≠ ' '), text⟩

/-! ## Columns -/

theorem skipSpaces_replicate (n : Nat) (rest : Text) :
    skipSpaces (List.replicate n ' ' ++ rest) = skipSpaces rest := by
  refine List.dropWhile_append_of_pos fun c hc => ?_
  rw [List.eq_of_mem_replicate hc]
  rfl

theorem skipSpaces_cons {c : Char} (hc : c ≠ ' ') (rest : Text) :
    skipSpaces (c :: rest) = c :: rest :=
  List.dropWhile_cons_of_neg (by simpa using hc)

/-- A number is read up to what is no digit. -/
theorem readDecimal?_decimal (n : Nat) {c : Char} (hc : c.isDigit = false) (rest : Text) :
    readDecimal? (Text.decimal n ++ c :: rest) = some (n, c :: rest) := by
  have hdigits : ∀ c ∈ Text.decimal n, c.isDigit := fun c hc =>
    Nat.isDigit_of_mem_toDigits (by decide) (by decide) hc
  have hc : ¬ c.isDigit = true := by rw [hc]; exact Bool.false_ne_true
  rw [readDecimal?, List.takeWhile_append_of_pos hdigits, List.dropWhile_append_of_pos hdigits,
    List.takeWhile_cons_of_neg hc, List.dropWhile_cons_of_neg hc, List.append_nil, decimal?_decimal]
  rfl

/-- A number begins with what is no space. -/
theorem skipSpaces_decimal (n : Nat) (rest : Text) :
    skipSpaces (Text.decimal n ++ rest) = Text.decimal n ++ rest := by
  obtain ⟨c, digits, hdigits⟩ : ∃ c digits, Text.decimal n = c :: digits :=
    List.exists_cons_of_ne_nil Nat.toDigits_ne_nil
  have hc : c.isDigit := Nat.isDigit_of_mem_toDigits (by decide) (by decide)
    (hdigits ▸ List.mem_cons_self : c ∈ Text.decimal n)
  have hspace : c ≠ ' ' := fun hspace => by
    rw [hspace] at hc
    cases hc
  rw [hdigits, List.cons_append, skipSpaces_cons hspace]

/-- Neither spaces nor line ends are in the name of a type. -/
theorem TokenType.ne_of_mem_name (type : TokenType) {c : Char} (hc : c ∈ type.name.toList) :
    c ≠ ' ' ∧ c ≠ '\n' := by
  have hall : type.name.toList.all fun c => c != ' ' && c != '\n' := by cases type <;> rfl
  simpa using List.all_eq_true.mp hall c hc

theorem TokenType.name_ne_nil (type : TokenType) : type.name.toList ≠ [] := by
  cases type <;> exact List.cons_ne_nil _ _

/-- A name is read up to the space behind it. -/
theorem takeWhile_name (type : TokenType) (rest : Text) :
    (type.name.toList ++ ' ' :: rest).takeWhile (· ≠ ' ') = type.name.toList ∧
      (type.name.toList ++ ' ' :: rest).dropWhile (· ≠ ' ') = ' ' :: rest := by
  have hname : ∀ c ∈ type.name.toList, decide (c ≠ ' ') = true := fun c hc =>
    decide_eq_true (type.ne_of_mem_name hc).1
  rw [List.takeWhile_append_of_pos hname, List.dropWhile_append_of_pos hname]
  exact ⟨List.append_nil _, rfl⟩

theorem skipSpaces_name (type : TokenType) (rest : Text) :
    skipSpaces (type.name.toList ++ rest) = type.name.toList ++ rest := by
  obtain ⟨c, more, hname⟩ := List.exists_cons_of_ne_nil type.name_ne_nil
  have hc := (type.ne_of_mem_name (hname ▸ List.mem_cons_self : c ∈ type.name.toList)).1
  rw [hname, List.cons_append, skipSpaces_cons hc]

/-! ## Lines -/

/-- The line for a token, without the line end. -/
def Span.line (span : Span) (text : Text) : Text :=
  padLeft 6 (Text.decimal span.start) ++ "..".toList ++ padRight 6 (Text.decimal span.stop)
    ++ [' '] ++ padRight 8 span.tokenType.name.toList ++ [' '] ++ quote text

/-- Of equal characters it does not matter which is the last. -/
theorem replicate_append_cons (n : Nat) (c : Char) (rest : Text) :
    List.replicate n c ++ c :: rest = c :: (List.replicate n c ++ rest) := by
  rw [← List.cons_append, ← List.replicate_succ, List.replicate_succ', List.append_assoc]
  rfl

/-- What a line is made of, from its first column to its last. However wide a column is, a space
follows it. -/
theorem Span.line_eq (span : Span) (text : Text) :
    ∃ before between behind : Nat,
      span.line text = List.replicate before ' ' ++ (Text.decimal span.start ++
        '.' :: '.' :: (Text.decimal span.stop ++ ' ' :: (List.replicate between ' ' ++
          (span.tokenType.name.toList ++ ' ' :: (List.replicate behind ' ' ++ quote text))))) := by
  refine ⟨6 - (Text.decimal span.start).length, 6 - (Text.decimal span.stop).length,
    8 - span.tokenType.name.toList.length, ?_⟩
  rw [line, padLeft, padRight, padRight]
  simp only [List.append_assoc, List.cons_append, List.append_nil, replicate_append_cons]
  rfl

/-- **A line is read as the token that it was written for.** -/
theorem Entry.ofLine?_line (span : Span) (text : Text) :
    ofLine? (span.line text) =
      some ⟨span.start, span.stop, span.tokenType.name.toList, text⟩ := by
  obtain ⟨before, between, behind, hline⟩ := span.line_eq text
  generalize htail : List.replicate behind ' ' ++ quote text = tail at hline
  generalize hname : span.tokenType.name.toList ++ ' ' :: tail = named at hline
  have hstart : readDecimal? (skipSpaces (span.line text)) = some (span.start,
      '.' :: '.' :: (Text.decimal span.stop ++ ' ' :: (List.replicate between ' ' ++ named))) := by
    rw [hline, skipSpaces_replicate, skipSpaces_decimal, readDecimal?_decimal _ rfl]
  have hstop : readDecimal? (Text.decimal span.stop ++ ' ' :: (List.replicate between ' ' ++ named)) =
      some (span.stop, ' ' :: (List.replicate between ' ' ++ named)) :=
    readDecimal?_decimal _ rfl _
  have hnamed : skipSpaces (' ' :: (List.replicate between ' ' ++ named)) = named := by
    rw [← List.cons_append, ← List.replicate_succ, skipSpaces_replicate, ← hname, skipSpaces_name]
  have htext : unquote? (skipSpaces (' ' :: tail)) = some text := by
    rw [← htail, ← List.cons_append, ← List.replicate_succ, skipSpaces_replicate,
      quote, List.cons_append, skipSpaces_cons (by decide), ← List.cons_append, ← quote,
      unquote?_quote]
  obtain ⟨htake, hdrop⟩ := takeWhile_name span.tokenType tail
  rw [hname] at htake hdrop
  rw [ofLine?, hstart]
  dsimp only [Option.bind_eq_bind, Option.bind_some]
  rw [afterDots?_dots, Option.bind_some, hstop, Option.bind_some, hnamed, hdrop, htext, htake]
  rfl

/-- A line has no line end in it. -/
theorem Span.not_mem_line (span : Span) (text : Text) : '\n' ∉ span.line text := by
  have hdecimal : ∀ n, '\n' ∉ Text.decimal n := not_mem_decimal rfl
  have hspaces : ∀ n, '\n' ∉ List.replicate n ' ' := fun n hmem =>
    absurd (List.eq_of_mem_replicate hmem) (by decide)
  obtain ⟨before, between, behind, hline⟩ := span.line_eq text
  rw [hline]
  simp only [List.mem_append, List.mem_cons, Char.reduceEq, false_or, not_or]
  exact ⟨hspaces before, hdecimal span.start, hdecimal span.stop, hspaces between,
    fun hname => (span.tokenType.ne_of_mem_name hname).2 rfl, hspaces behind, not_mem_quote text⟩

/-! ## Listings -/

theorem Text.slice_of_slice? {text part : Text} {start stop : Nat}
    (h : text.slice? start stop = some part) : text.slice start stop = part := by
  unfold slice? at h
  split at h
  · exact Option.some.inj h
  · cases h

theorem flatMap_listing_eq {source : Text} {all : List Step}
    (h : ∀ step ∈ all, source.slice? step.start step.stop = some step.text) :
    (all.flatMap fun
      | .token span text => span.listing text
      | .plain .. => []) =
      (all.filterMap Step.span?).flatMap fun span =>
        span.line (source.slice span.start span.stop) ++ ['\n'] := by
  induction all with
  | nil => rfl
  | cons step all ih =>
    obtain ⟨hstep, hall⟩ := List.forall_mem_cons.mp h
    rw [List.flatMap_cons, ih hall]
    rcases step with ⟨span, text⟩ | ⟨position, c⟩
    · have htext : source.slice span.start span.stop = text := Text.slice_of_slice? hstep
      rw [List.filterMap_cons]
      dsimp only [Step.span?]
      rw [List.flatMap_cons, htext]
      rfl
    · rfl

/-- **A listing is its lines**, one for each token, with the text that the token covers. -/
theorem tokenListing_eq (source : Text) :
    tokenListing source = (spans Rule.priority source).flatMap fun span =>
      span.line (source.slice span.start span.stop) ++ ['\n'] :=
  flatMap_listing_eq fun _ => slice?_of_mem_steps

open Environment in
/-- **What is listed can be read back.** If an invocation lists tokens, then it prints a line for
each token of its source text, in their order, and the line is read as the offsets of the token, the
name of its type, and the text that it covers. -/
theorem run_tokens_listing {environment : Environment} {arguments : List String}
    {options : Options} {output : Text} (hparse : Options.parse arguments = .ok options)
    (hstrip : options.strip = false) (hcaret : options.caret = none)
    (htokens : options.tokens = true) (hrun : environment.run arguments = .success output) :
    ∃ (source : Text) (lines : List Text),
      environment.sourceContents options = .ok source.utf8Encode ∧
      output = lines.flatMap (· ++ ['\n']) ∧ (∀ line ∈ lines, '\n' ∉ line) ∧
      lines.map Entry.ofLine? = (spans Rule.priority source).map fun span =>
        some ⟨span.start, span.stop, span.tokenType.name.toList,
          source.slice span.start span.stop⟩ := by
  have hreads := Options.parse_eq_ok_iff.mp hparse
  obtain ⟨config, source, -, hsource, rfl⟩ :=
    answer_eq_ok_iff.mp ((run_eq_success_iff hreads).mp hrun)
  have houtput : options.output (config.theme environment.colors) source = tokenListing source := by
    simp [Options.output, hstrip, hcaret, htokens]
  refine ⟨source, (spans Rule.priority source).map fun span =>
    span.line (source.slice span.start span.stop), hsource, ?_, ?_, ?_⟩
  · rw [houtput, tokenListing_eq, List.flatMap_map]
  · intro line hline
    obtain ⟨span, -, rfl⟩ := List.mem_map.mp hline
    exact span.not_mem_line _
  · rw [List.map_map]
    exact List.map_congr_left fun span _ => Entry.ofLine?_line span _

/-- A comment over two lines and a string with a bell in it each have a line of their own. -/
theorem run_tokens_listing_comment :
    ∃ (output : Text) (lines : List Text),
      (Environment.ofFiles [("a.cs", "/*\n*/ \"\x07\"")] .suppressed).run ["a.cs", "--tokens"] =
        .success output ∧
      output = lines.flatMap (· ++ ['\n']) ∧ (∀ line ∈ lines, '\n' ∉ line) ∧
      lines.map Entry.ofLine? =
        [some ⟨0, 5, "comment".toList, "/*\n*/".toList⟩,
          some ⟨6, 9, "string".toList, "\"\x07\"".toList⟩] := by
  have hparse : Options.parse ["a.cs", "--tokens"] =
      .ok ⟨some "a.cs", none, none, true, false, none⟩ := rfl
  have hrun : (Environment.ofFiles [("a.cs", "/*\n*/ \"\x07\"")] .suppressed).run
      ["a.cs", "--tokens"] = .success
        ("     0..5      comment  \"/*\\n*/\"\n".toList ++
          "     6..9      string   \"\\\"\\u\x7b7\x7d\\\"\"\n".toList) := by
    decide +kernel
  obtain ⟨source, lines, hsource, houtput, hlines, hread⟩ :=
    run_tokens_listing hparse rfl rfl rfl hrun
  have htext : source = "/*\n*/ \"\x07\"".toList := by
    have hcontents : readText (.ok "/*\n*/ \"\x07\"".toUTF8) = .ok source :=
      readText_eq_ok_iff.mpr hsource
    rw [String.toUTF8_eq_toByteArray, ← String.utf8Encode_toList,
      readText_eq_ok_iff.mpr rfl] at hcontents
    exact (Except.ok.inj hcontents).symm
  rw [htext] at hread
  exact ⟨_, lines, hrun, houtput, hlines, hread.trans (by decide +kernel)⟩

end Highlighter
