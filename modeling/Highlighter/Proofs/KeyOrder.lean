import Mathlib.Data.Option.Basic
import Highlighter.Toml.Document

/-!
# The order of keys

A document is read into a tree that keeps the order in which keys were first named. The tables that
it stands for have their keys in ascending order all the same: each table of the tree is put in
order when it is finished, and no finished table ever becomes a place of the tree.

* `Value.Ascending`: all tables in a value have their keys in ascending order.
* `Reader.Yields`: what is known of all that a reader takes, for each way to put readers together.
* `Node.IsFlat`: no place of a tree is a finished array or table.
* `value_yields`, `Document.add_isFlat`: the values and the trees that documents are read into.
* `parse?_ascending`: the order of keys in a document.
* `Decoder.Ordered`, `decode_ordered`: the order of keys as a law for ways to decode documents.
-/

namespace Highlighter.Toml

/-! ## Values in order -/

/-- A value that holds no others. -/
def Value.IsScalar : Value → Prop
  | array _ | table _ => False
  | _ => True

/-- A value in which every table has its keys in ascending order. -/
inductive Value.Ascending : Value → Prop where
  | scalar {value : Value} : value.IsScalar → Ascending value
  | array {items : List Value} : (∀ item ∈ items, Ascending item) → Ascending (.array items)
  | table {entries : Table} : entries.Pairwise (·.1 < ·.1) →
      (∀ entry ∈ entries, Ascending entry.2) → Ascending (.table entries)

namespace Table

theorem mem_insert {table : Table} {key : Text} {value : Value} {entry : Text × Value}
    (h : entry ∈ table.insert key value) : entry = (key, value) ∨ entry ∈ table := by
  induction table with
  | nil => exact .inl (List.mem_singleton.mp h)
  | cons other table ih =>
    rw [insert] at h
    split at h
    · exact (List.mem_cons.mp h).imp id (List.mem_cons_of_mem _)
    · split at h
      · exact List.mem_cons.mp h
      · rcases List.mem_cons.mp h with rfl | hrest
        · exact .inr List.mem_cons_self
        · exact (ih hrest).imp id (List.mem_cons_of_mem _)

theorem pairwise_insert {table : Table} (key : Text) (value : Value)
    (h : table.Pairwise (·.1 < ·.1)) : (table.insert key value).Pairwise (·.1 < ·.1) := by
  induction table with
  | nil => exact List.pairwise_singleton _ _
  | cons other table ih =>
    obtain ⟨hother, htable⟩ := List.pairwise_cons.mp h
    rw [insert]
    split
    · rename_i heq
      exact List.pairwise_cons.mpr ⟨fun entry hentry => heq ▸ hother entry hentry, htable⟩
    · rename_i hne
      split
      · rename_i hlt
        refine List.pairwise_cons.mpr ⟨fun entry hentry => ?_, h⟩
        rcases List.mem_cons.mp hentry with rfl | hrest
        · exact hlt
        · exact List.lt_trans hlt (hother entry hrest)
      · rename_i hge
        refine List.pairwise_cons.mpr ⟨fun entry hentry => ?_, ih htable⟩
        rcases mem_insert hentry with rfl | hrest
        · exact Decidable.byContradiction fun hle =>
            hne (Std.Trichotomous.trichotomous key other.1 hge hle)
        · exact hother entry hrest

end Table

theorem Value.Ascending.insert {table : Table} {value : Value} (key : Text)
    (htable : (Value.table table).Ascending) (hvalue : value.Ascending) :
    (Value.table (table.insert key value)).Ascending := by
  cases htable with
  | scalar h => exact h.elim
  | table hkeys hvalues =>
    refine .table (Table.pairwise_insert key value hkeys) fun entry hentry => ?_
    rcases Table.mem_insert hentry with rfl | hentry
    · exact hvalue
    · exact hvalues entry hentry

/-! ## Trees -/

/-- A place such that no place in it is a finished array or table. -/
inductive Node.IsFlat : Node → Prop where
  | leaf {value : Value} : value.IsScalar → IsFlat (.leaf value)
  | array {items : List Node} : (∀ item ∈ items, IsFlat item) → IsFlat (.array items)
  | table {origin : Origin} {entries : Entries} : (∀ entry ∈ entries, IsFlat entry.2) →
      IsFlat (.table origin entries)
  | tables {elements : List Entries} :
      (∀ entries ∈ elements, ∀ entry ∈ entries, IsFlat entry.2) → IsFlat (.tables elements)

namespace Entries

/-- Places such that no place in them is a finished array or table. -/
def IsFlat (entries : Entries) : Prop := ∀ entry ∈ entries, entry.2.IsFlat

variable {entries : Entries} {key : Text} {node : Node}

theorem isFlat_nil : IsFlat [] := nofun

theorem IsFlat.get? (h : entries.IsFlat) (hget : entries.get? key = some node) : node.IsFlat := by
  obtain ⟨before, after, rfl, -⟩ := List.lookup_eq_some_iff.mp hget
  exact h (key, node) (by simp)

theorem IsFlat.insert (h : entries.IsFlat) (key : Text) (hnode : node.IsFlat) :
    (entries.insert key node).IsFlat := by
  induction entries with
  | nil => exact List.forall_mem_singleton.mpr hnode
  | cons other entries ih =>
    obtain ⟨hother, hentries⟩ := List.forall_mem_cons.mp h
    rw [Entries.insert]
    split
    · exact List.forall_mem_cons.mpr ⟨hnode, hentries⟩
    · exact List.forall_mem_cons.mpr ⟨hother, ih hentries⟩

theorem IsFlat.erase (h : entries.IsFlat) (key : Text) : (entries.erase key).IsFlat :=
  fun entry hentry => h entry (List.mem_filter.mp hentry).1

/-! ## Changes to trees -/

/-- A change at the end of a path keeps the whole tree flat if it does so there. -/
theorem IsFlat.within {dotted : Bool} {change : Origin → Entries → Option Entries}
    (hchange : ∀ origin entries result, entries.IsFlat → change origin entries = some result →
      result.IsFlat)
    {path : List Text} {origin : Origin} {result : Entries} (h : entries.IsFlat)
    (hwithin : Toml.within dotted change path origin entries = some result) : result.IsFlat := by
  induction path generalizing origin entries result with
  | nil => exact hchange origin entries result h hwithin
  | cons key path ih =>
    cases hget : entries.get? key with
    | none =>
      rw [Toml.within, hget] at hwithin
      obtain ⟨inner, hinner, ⟨⟩⟩ := Option.bind_eq_some_iff.mp hwithin
      exact h.insert key (.table (ih isFlat_nil hinner))
    | some node =>
      rw [Toml.within, hget] at hwithin
      cases h.get? hget with
      | leaf _ => cases hwithin
      | array _ => cases hwithin
      | table hflat =>
        obtain ⟨-, -, hwithin⟩ := Option.bind_eq_some_iff.mp hwithin
        obtain ⟨inner, hinner, ⟨⟩⟩ := Option.bind_eq_some_iff.mp hwithin
        exact h.insert key (.table (ih hflat hinner))
      | tables hflat =>
        obtain ⟨last, hlast, hwithin⟩ := Option.bind_eq_some_iff.mp hwithin
        obtain ⟨inner, hinner, ⟨⟩⟩ := Option.bind_eq_some_iff.mp hwithin
        refine h.insert key (.tables fun entries hentries => ?_)
        rcases List.mem_append.mp hentries with hbefore | hend
        · exact hflat entries (List.dropLast_subset _ hbefore)
        · obtain rfl := List.mem_singleton.mp hend
          exact ih (hflat last (List.mem_of_getLast? hlast)) hinner

theorem IsFlat.assign {path : List Text} {origin : Origin} {result : Entries} (h : entries.IsFlat)
    (hnode : node.IsFlat) (hassign : Toml.assign path key node origin entries = some result) :
    result.IsFlat := by
  refine h.within (fun origin entries result hflat hchange => ?_) hassign
  obtain ⟨-, -, hchange⟩ := Option.bind_eq_some_iff.mp hchange
  obtain ⟨-, -, ⟨⟩⟩ := Option.bind_eq_some_iff.mp hchange
  exact hflat.insert key hnode

theorem IsFlat.openTable {path : List Text} {result : Entries} (h : entries.IsFlat)
    (hopen : Toml.openTable path key entries = some result) : result.IsFlat := by
  refine h.within (fun origin entries result hflat hchange => ?_) hopen
  split at hchange
  · obtain rfl := Option.some.inj hchange
    exact hflat.insert key (.table isFlat_nil)
  · rename_i inner hget
    obtain rfl := Option.some.inj hchange
    cases hflat.get? hget with
    | table hinner => exact (hflat.erase key).insert key (.table hinner)
  · cases hchange

theorem IsFlat.openElement {path : List Text} {result : Entries} (h : entries.IsFlat)
    (hopen : Toml.openElement path key entries = some result) : result.IsFlat := by
  refine h.within (fun origin entries result hflat hchange => ?_) hopen
  split at hchange
  · obtain rfl := Option.some.inj hchange
    exact hflat.insert key (.tables (List.forall_mem_singleton.mpr isFlat_nil))
  · rename_i elements hget
    obtain rfl := Option.some.inj hchange
    cases hflat.get? hget with
    | tables helements =>
      refine hflat.insert key (.tables (List.forall_mem_append.mpr ⟨helements, ?_⟩))
      exact List.forall_mem_singleton.mpr isFlat_nil
  · cases hchange

end Entries

/-! ## Finished trees -/

section Finished

variable {entries : Entries}

theorem Entries.table?_ascending {table : Table}
    (hentries : ∀ entry ∈ entries, ∀ value, entry.2.value? = some value → value.Ascending)
    (h : Entries.table? entries = some table) : (Value.table table).Ascending := by
  induction entries generalizing table with
  | nil =>
    obtain rfl := Option.some.inj h
    exact .table .nil nofun
  | cons entry entries ih =>
    obtain ⟨hentry, hentries⟩ := List.forall_mem_cons.mp hentries
    obtain ⟨value, hvalue, h⟩ := Option.bind_eq_some_iff.mp h
    obtain ⟨rest, hrest, ⟨⟩⟩ := Option.bind_eq_some_iff.mp h
    exact (ih hentries hrest).insert entry.1 (hentry value hvalue)

/-- A table of the tree stands for a time or for a table. -/
theorem Entries.close_ascending {value : Value}
    (hentries : ∀ entry ∈ entries, ∀ value, entry.2.value? = some value → value.Ascending)
    (h : Entries.close entries (Entries.table? entries) = some value) : value.Ascending := by
  unfold Entries.close at h
  split at h
  · unfold Entries.time? at h
    split at h
    · split at h
      · obtain rfl := Option.some.inj h
        exact .scalar trivial
      · cases h
    · cases h
  · obtain ⟨table, htable, rfl⟩ := Option.map_eq_some_iff.mp h
    exact Entries.table?_ascending hentries htable

theorem Node.values?_ascending {items : List Node} {values : List Value}
    (hitems : ∀ item ∈ items, ∀ value, item.value? = some value → value.Ascending)
    (h : Node.values? items = some values) : ∀ value ∈ values, value.Ascending := by
  induction items generalizing values with
  | nil =>
    obtain rfl := Option.some.inj h
    exact nofun
  | cons item items ih =>
    obtain ⟨hitem, hitems⟩ := List.forall_mem_cons.mp hitems
    obtain ⟨value, hvalue, h⟩ := Option.bind_eq_some_iff.mp h
    obtain ⟨rest, hrest, ⟨⟩⟩ := Option.bind_eq_some_iff.mp h
    exact List.forall_mem_cons.mpr ⟨hitem value hvalue, ih hitems hrest⟩

theorem Entries.values?_ascending {elements : List Entries} {values : List Value}
    (helements : ∀ entries ∈ elements, ∀ entry ∈ entries, ∀ value,
      entry.2.value? = some value → value.Ascending)
    (h : Entries.values? elements = some values) : ∀ value ∈ values, value.Ascending := by
  induction elements generalizing values with
  | nil =>
    obtain rfl := Option.some.inj h
    exact nofun
  | cons entries elements ih =>
    obtain ⟨hentries, helements⟩ := List.forall_mem_cons.mp helements
    obtain ⟨value, hvalue, h⟩ := Option.bind_eq_some_iff.mp h
    obtain ⟨rest, hrest, ⟨⟩⟩ := Option.bind_eq_some_iff.mp h
    exact List.forall_mem_cons.mpr
      ⟨Entries.close_ascending hentries hvalue, ih helements hrest⟩

/-- What a place of a flat tree stands for is in order. -/
theorem Node.IsFlat.value?_ascending {node : Node} (h : node.IsFlat) :
    ∀ value, node.value? = some value → value.Ascending := by
  -- The induction is on why the place is flat, which speaks of all places in it at once.
  induction h with
  | leaf hscalar =>
    rintro value ⟨⟩
    exact .scalar hscalar
  | array _ ih =>
    intro value hvalue
    obtain ⟨values, hvalues, rfl⟩ := Option.map_eq_some_iff.mp hvalue
    exact .array (Node.values?_ascending ih hvalues)
  | table _ ih => exact fun value hvalue => Entries.close_ascending ih hvalue
  | tables _ ih =>
    intro value hvalue
    obtain ⟨values, hvalues, rfl⟩ := Option.map_eq_some_iff.mp hvalue
    exact .array (Entries.values?_ascending ih hvalues)

end Finished

/-! ## Readers -/

/-- What every change keeps, a sequence of changes keeps. -/
theorem foldlM_keeps {α β : Type} {change : β → α → Option β} {P : β → Prop} {Q : α → Prop}
    (hchange : ∀ b a result, P b → Q a → change b a = some result → P result) {as : List α}
    {b result : β} (hb : P b) (has : ∀ a ∈ as, Q a) (h : as.foldlM change b = some result) :
    P result := by
  induction as generalizing b with
  | nil =>
    obtain rfl := Option.some.inj h
    exact hb
  | cons a as ih =>
    obtain ⟨ha, has⟩ := List.forall_mem_cons.mp has
    rw [List.foldlM_cons] at h
    obtain ⟨next, hnext, h⟩ := Option.bind_eq_some_iff.mp h
    exact ih (hchange b a next hb ha hnext) has h

namespace Reader

variable {α β : Type} {reader : Reader α} {P : α → Prop} {Q : β → Prop}

/-- All that a reader takes satisfies a condition. -/
def Yields (reader : Reader α) (P : α → Prop) : Prop :=
  ∀ text a rest, reader text = some (a, rest) → P a

theorem yields_true (reader : Reader α) : reader.Yields fun _ => True := fun _ _ _ _ => trivial

theorem yields_pure {a : α} (h : P a) : Yields (pure a) P := by
  rintro text _ _ ⟨⟩
  exact h

theorem yields_failure : Yields failure P := nofun

theorem Yields.bind {next : α → Reader β} (h : reader.Yields P)
    (hnext : ∀ a, P a → (next a).Yields Q) : Yields (reader >>= next) Q := by
  intro text b rest hb
  obtain ⟨⟨a, middle⟩, ha, hb⟩ := Option.bind_eq_some_iff.mp hb
  exact hnext a (h text a middle ha) middle b rest hb

/-- What is taken first does not matter. -/
theorem yields_bind {next : α → Reader β} (hnext : ∀ a, (next a).Yields Q) :
    Yields (reader >>= next) Q :=
  (yields_true reader).bind fun a _ => hnext a

theorem Yields.orElse {other : Reader α} (h : reader.Yields P) (hother : other.Yields P) :
    Yields (reader <|> other) P := by
  intro text a rest ha
  rcases Option.or_eq_some_iff.mp ((Option.orElse_eq_or ..).symm.trans ha) with
    hfirst | ⟨-, hsecond⟩
  · exact h text a rest hfirst
  · exact hother text a rest hsecond

theorem Yields.map {change : α → β} (h : reader.Yields P) (hchange : ∀ a, P a → Q (change a)) :
    Yields (change <$> reader) Q := by
  rw [map_eq_pure_bind]
  exact h.bind fun a ha => yields_pure (hchange a ha)

theorem Yields.optional (h : reader.Yields P) :
    (optional reader).Yields fun a? => ∀ a ∈ a?, P a := by
  refine .orElse (h.map fun a ha => ?_) (yields_pure nofun)
  rintro _ ⟨⟩
  exact ha

theorem Yields.many (h : reader.Yields P) : (many reader).Yields fun as => ∀ a ∈ as, P a := by
  have hupTo : ∀ limit text, ∀ a ∈ (upTo reader limit text).1, P a := by
    intro limit
    induction limit with
    | zero => exact fun text => nofun
    | succ limit ih =>
      intro text
      rw [upTo]
      split
      · rename_i a rest hread
        exact List.forall_mem_cons.mpr ⟨h text a rest hread, ih rest⟩
      · exact nofun
  intro text as rest has
  obtain rfl := congrArg Prod.fst (Option.some.inj has)
  exact hupTo text.length text

theorem Yields.sepBy {separator : Reader β} (h : reader.Yields P) :
    (sepBy reader separator).Yields fun as => ∀ a ∈ as, P a := by
  refine .orElse (h.bind fun first hfirst => ?_) (yields_pure nofun)
  have hrest : Yields (do let _ ← separator; reader) P := yields_bind fun _ => h
  exact hrest.many.bind fun rest hrest => yields_pure (List.forall_mem_cons.mpr ⟨hfirst, hrest⟩)

theorem Yields.all (h : reader.Yields P) {text : Text} {as : List α}
    (hall : all reader text = some as) : ∀ a ∈ as, P a := by
  have hwithin : ∀ limit text as, allWithin reader limit text = some as → ∀ a ∈ as, P a := by
    intro limit text
    fun_induction allWithin reader limit text with
    | case1 =>
      rintro _ ⟨⟩
      exact nofun
    | case2 => exact nofun
    | case3 limit text _ a rest hread ih =>
      intro as hmap
      obtain ⟨as, has, rfl⟩ := Option.map_eq_some_iff.mp hmap
      exact List.forall_mem_cons.mpr ⟨h _ a rest hread, ih as has⟩
    | case4 => exact nofun
  exact hwithin text.length text as hall

end Reader

/-! ## Documents -/

open Reader

theorem scalar_yields : scalar.Yields Node.IsFlat := by
  have hmap {α : Type} (reader : Reader α) {change : α → Value}
      (hchange : ∀ a, (change a).IsScalar) : (reader <&> change).Yields Value.IsScalar :=
    (yields_true reader).map fun a _ => hchange a
  refine Yields.map (P := Value.IsScalar) ?_ fun _ => .leaf
  refine (hmap string ?_).orElse ((hmap time ?_).orElse ((hmap float ?_).orElse
    ((hmap integer ?_).orElse (hmap boolean ?_))))
  all_goals exact fun _ => trivial

theorem array_yields {item : Reader Node} (h : item.Yields Node.IsFlat) :
    (array item).Yields Node.IsFlat := by
  have hitem : Yields (do padding; let value ← item; padding; return value) Node.IsFlat :=
    yields_bind fun _ => h.bind fun value hvalue => yields_bind fun _ => yields_pure hvalue
  have hend (items : List Node) (hitems : ∀ item ∈ items, item.IsFlat) :
      Yields (do padding; let _ ← char ']'; return .array items) Node.IsFlat :=
    yields_bind fun _ => yields_bind fun _ => yields_pure (.array hitems)
  refine yields_bind fun _ => hitem.sepBy.bind fun items hitems => ?_
  dsimp only
  -- With and without a comma behind the last item.
  split
  · exact yields_bind fun _ => hend items hitems
  · exact hend items hitems

theorem keyValue_yields {item : Reader Node} (h : item.Yields Node.IsFlat) :
    (keyValue item).Yields fun pair => pair.2.IsFlat :=
  yields_bind fun _ => yields_bind fun _ => yields_bind fun _ =>
    h.bind fun _ hvalue => yields_pure hvalue

theorem inlineTable_yields {item : Reader Node} (h : item.Yields Node.IsFlat) :
    (inlineTable item).Yields Node.IsFlat := by
  have hpair : Yields (do let pair ← keyValue item; blanks; return pair)
      fun pair => pair.2.IsFlat :=
    (keyValue_yields h).bind fun pair hpair => yields_bind fun _ => yields_pure hpair
  refine yields_bind fun _ => hpair.sepBy.bind fun pairs hpairs => ?_
  refine yields_bind fun _ => yields_bind fun _ => ?_
  split
  · rename_i entries hentries
    refine yields_pure (.table ?_)
    exact foldlM_keeps (fun _ _ _ hflat hvalue => hflat.assign hvalue) Entries.isFlat_nil hpairs
      hentries
  · exact yields_failure

/-- A value is read as a place that is flat. -/
theorem value_yields (depth : Nat) : (value depth).Yields Node.IsFlat := by
  induction depth with
  | zero => exact scalar_yields
  | succ depth ih => exact (array_yields ih).orElse ((inlineTable_yields ih).orElse scalar_yields)

/-- A line that puts nothing in a tree but what is flat. -/
def Line.IsFlat : Line → Prop
  | assignment _ _ value => value.IsFlat
  | _ => True

theorem line_yields : line.Yields Line.IsFlat := by
  have helement : elementHeader.Yields Line.IsFlat :=
    yields_bind fun _ => yields_bind fun _ => yields_bind fun _ => yields_pure trivial
  have htable : tableHeader.Yields Line.IsFlat :=
    yields_bind fun _ => yields_bind fun _ => yields_bind fun _ => yields_pure trivial
  have hassignment : assignment.Yields Line.IsFlat :=
    (keyValue_yields (value_yields nestingLimit)).bind fun _ hvalue => yields_pure hvalue
  have hsaid := (helement.orElse (htable.orElse hassignment)).optional
  refine yields_bind fun _ => hsaid.bind fun said hsaid => yields_bind fun _ => yields_pure ?_
  cases said with
  | none => trivial
  | some said => exact hsaid said rfl

/-- A line keeps the tree of a document flat. -/
theorem Document.add_isFlat {document result : Document} {line : Line}
    (h : document.root.IsFlat) (hline : line.IsFlat) (hadd : document.add line = some result) :
    result.root.IsFlat := by
  cases line with
  | blank =>
    obtain rfl := Option.some.inj hadd
    exact h
  | assignment path key value =>
    obtain ⟨root, hroot, ⟨⟩⟩ := Option.bind_eq_some_iff.mp hadd
    exact h.within (fun origin entries result hflat => hflat.assign hline) hroot
  | tableHeader path key =>
    obtain ⟨root, hroot, ⟨⟩⟩ := Option.bind_eq_some_iff.mp hadd
    exact h.openTable hroot
  | elementHeader path key =>
    obtain ⟨root, hroot, ⟨⟩⟩ := Option.bind_eq_some_iff.mp hadd
    exact h.openElement hroot

/-- **The keys of every table in a document are in ascending order.** -/
theorem parse?_ascending {text : Text} {table : Table} (h : parse? text = some table) :
    (Value.table table).Ascending := by
  obtain ⟨lines, hlines, h⟩ := Option.bind_eq_some_iff.mp h
  obtain ⟨document, hdocument, h⟩ := Option.bind_eq_some_iff.mp h
  have hroot : document.root.IsFlat :=
    foldlM_keeps (P := fun document => document.root.IsFlat) (fun _ _ _ => Document.add_isFlat)
      Entries.isFlat_nil (line_yields.all hlines) hdocument
  exact Entries.table?_ascending (fun entry hentry => (hroot entry hentry).value?_ascending) h

namespace Value.Ascending

variable {table : Table}

/-- The keys of a table in order ascend. -/
theorem pairwise (h : (Value.table table).Ascending) : table.Pairwise (·.1 < ·.1) := by
  cases h with
  | scalar hscalar => exact hscalar.elim
  | table hkeys _ => exact hkeys

/-- The values of a table in order are in order. -/
theorem get? {key : Text} {value : Value} (h : (Value.table table).Ascending)
    (hget : table.get? key = some value) : value.Ascending := by
  obtain ⟨before, after, rfl, -⟩ := List.lookup_eq_some_iff.mp hget
  cases h with
  | scalar hscalar => exact hscalar.elim
  | table _ hvalues => exact hvalues _ (List.mem_append_right before List.mem_cons_self)

end Value.Ascending

/-- A way to decode documents that gives tables with their keys in ascending order only. -/
def Decoder.Ordered (decode : Decoder) : Prop :=
  ∀ ⦃text table⦄, decode text = .ok table → (Value.table table).Ascending

theorem decode_ordered : Decoder.Ordered decode := fun _ _ h =>
  parse?_ascending (decode_eq_ok_iff.mp h)

end Highlighter.Toml
