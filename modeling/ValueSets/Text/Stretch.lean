/-!
# Texts by stretches

A text that repeats characters very often is kept as a list of stretches, each of one character.
`Stretch.expanded` is the text itself. `Stretch.before` compares two such texts without expanding
them, and `Stretch.before_iff` says that it answers as the texts do.
-/

set_option autoImplicit false

namespace ValueSets

/-- A character, repeated. -/
structure Stretch where
  count : Nat
  character : Char
deriving DecidableEq, Repr

namespace Stretch

/-- Characters as stretches. -/
def ofChars (cs : List Char) : List Stretch := cs.map (Stretch.mk 1)

/-- The number of characters. -/
def length (ss : List Stretch) : Nat := ss.foldl (fun n s => n + s.count) 0

/-- The characters of stretches. -/
def expanded (ss : List Stretch) : List Char :=
  ss.flatMap fun s => List.replicate s.count s.character

/-- Whether one text stands before another, code point by code point. -/
def before : List Stretch → List Stretch → Bool
  | _, [] => false
  | [], t :: ts => 0 < t.count || before [] ts
  | ⟨0, _⟩ :: ss, t :: ts => before ss (t :: ts)
  | s :: ss, ⟨0, _⟩ :: ts => before (s :: ss) ts
  | ⟨m + 1, c⟩ :: ss, ⟨n + 1, d⟩ :: ts =>
    if c ≠ d then c < d
    else if m ≤ n then before ss (⟨n - m, d⟩ :: ts)
    else before (⟨m - n, c⟩ :: ss) ts
termination_by ss ts => ss.length + ts.length

/-- No text stands before the empty one, which stands before all others. -/
theorem before_nil (ts : List Stretch) : before [] ts = true ↔ [] < expanded ts := by
  induction ts with
  | nil => simp [before, expanded]
  | cons t ts ih =>
    obtain ⟨n, d⟩ := t
    cases n with
    | zero => simpa [before, expanded] using ih
    | succ n => simp [before, expanded, List.replicate_succ]

/-- Texts that begin alike stand as what follows. -/
theorem append_lt_append_iff (c : Char) (n : Nat) (as bs : List Char) :
    List.replicate n c ++ as < List.replicate n c ++ bs ↔ as < bs := by
  induction n with
  | zero => simp
  | succ n ih => simp [List.replicate_succ, ih]

/-- The characters of a stretch stand before those of the rest. -/
theorem expanded_cons (n : Nat) (c : Char) (ss : List Stretch) :
    expanded (⟨n, c⟩ :: ss) = List.replicate n c ++ expanded ss := by
  simp [expanded]

/-- A stretch may be divided. -/
theorem expanded_split {m n : Nat} (h : m ≤ n) (c : Char) (ss : List Stretch) :
    expanded (⟨n, c⟩ :: ss) = List.replicate m c ++ expanded (⟨n - m, c⟩ :: ss) := by
  rw [expanded_cons, expanded_cons, ← List.append_assoc, List.replicate_append_replicate]
  congr 2
  omega

/-- Comparing stretches is comparing the texts. -/
theorem before_iff (ss ts : List Stretch) : before ss ts = true ↔ expanded ss < expanded ts := by
  fun_induction before ss ts with
  | case1 ss => simp [expanded]
  | case2 t ts ih =>
    have h := before_nil (t :: ts)
    simpa [before, expanded] using h
  | case3 c ss t ts ih => simpa [expanded] using ih
  | case4 s ss d ts hs ih => simpa [expanded] using ih
  | case5 m c ss n d ts hne => simp [expanded, List.replicate_succ, List.cons_lt_cons_iff, hne]
  | case6 m c ss n d ts hcd hle ih =>
    have hsame : c = d := by simpa using hcd
    rw [← hsame] at ih ⊢
    rw [expanded_cons (m + 1), expanded_split (Nat.succ_le_succ hle), append_lt_append_iff, ih]
    simp
  | case7 m c ss n d ts hcd hlt ih =>
    have hsame : c = d := by simpa using hcd
    have hle : n + 1 ≤ m + 1 := by omega
    rw [← hsame]
    rw [expanded_cons (n + 1), expanded_split hle, append_lt_append_iff, ih]
    simp

end Stretch

end ValueSets
