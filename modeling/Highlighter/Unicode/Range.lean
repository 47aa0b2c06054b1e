/-!
# Tables of code points

A property of characters is a table of runs of code points, ascending and apart from each other,
so that a search may stop at the first run that starts past the code point it looks for.

* `covers`: whether a table holds a code point.
* `covers_of_gt`: past its first run, a table holds what its remaining runs hold.
* `codePoints`, `mem_codePoints`: all that a table holds, one by one.
-/

namespace Highlighter.Unicode

/-- A run of consecutive code points, from `first` to `last` with both ends included. -/
abbrev Range := Nat × Nat

/-- Whether one of the runs of an ascending table holds the code point `n`. -/
def covers : List Range → Nat → Bool
  | [], _ => false
  | (first, last) :: table, n =>
    if n < first then false else if n ≤ last then true else covers table n

/-- Past its first run, a table holds what its remaining runs hold. -/
theorem covers_of_gt {first last n : Nat} {table : List Range} (h : first ≤ n) (h' : last < n) :
    covers ((first, last) :: table) n = covers table n := by
  simp [covers, Nat.not_lt.mpr h, Nat.not_le.mpr h']

/-- The code points that the runs of a table are made of. -/
def codePoints (table : List Range) : List Nat :=
  table.flatMap fun (first, last) => List.range' first (last + 1 - first)

theorem mem_codePoints {table : List Range} {n : Nat} (h : covers table n) :
    n ∈ codePoints table := by
  induction table with
  | nil => cases h
  | cons range table ih =>
    obtain ⟨first, last⟩ := range
    rw [codePoints, List.flatMap_cons, List.mem_append, List.mem_range'_1]
    rw [covers] at h
    split at h
    · cases h
    · split at h
      · exact .inl (by omega)
      · exact .inr (ih h)

end Highlighter.Unicode
