/-
# Cutting lists at a marker

Headers, lines, chunks and qualified names are all read by cutting a list at the first (or
last) place where something occurs.  This file sets up the cuts that the readers share: at a
single item, at a whole run of items, and at every item that satisfies a test.  The lemmas
say that a cut loses nothing but its marker and that nothing before a first cut could have
been cut earlier.
-/
namespace UpnpGateway.Text

variable {α : Type} [BEq α]

/-- The parts before and after the first `x`, if there is one. -/
def cutFirst (x : α) (s : List α) : Option (List α × List α) :=
  match s.dropWhile (· != x) with
  | [] => none
  | _ :: rest => some (s.takeWhile (· != x), rest)

/-- The parts before and after the last `x`, if there is one. -/
def cutLast (x : α) (s : List α) : Option (List α × List α) :=
  (cutFirst x s.reverse).map fun p => (p.2.reverse, p.1.reverse)

/-- The parts before and after the first occurrence of the run `w`, of which the first part
is continued from the items passed so far in reverse order. -/
def cutRunFrom (w passed : List α) : List α → Option (List α × List α)
  | [] => if w.isEmpty then some (passed.reverse, []) else none
  | y :: s =>
    if w.isPrefixOf (y :: s) then some (passed.reverse, (y :: s).drop w.length)
    else cutRunFrom w (y :: passed) s

/-- The parts before and after the first occurrence of the run `w`, if there is one. -/
def cutRun (w s : List α) : Option (List α × List α) := cutRunFrom w [] s

/-- Whether the run `w` occurs in a list. -/
def hasRun (w s : List α) : Bool := (cutRun w s).isSome

omit [BEq α] in
/-- The parts between the items that satisfy `p`; there is always at least one part. -/
def splitWhere (p : α → Bool) (s : List α) : List (List α) :=
  s.foldr (fun c parts =>
    match parts with
    | [] => []
    | w :: ws => if p c then [] :: w :: ws else (c :: w) :: ws) [[]]

omit [BEq α] in
theorem splitWhere_ne_nil (p : α → Bool) (s : List α) : splitWhere p s ≠ [] := by
  induction s with
  | nil => simp [splitWhere]
  | cons c s ih =>
    unfold splitWhere at ih ⊢
    simp only [List.foldr_cons]
    split
    · exact absurd ‹_› ih
    · split <;> simp

variable [LawfulBEq α]

/-- A cut at a run loses exactly the run. -/
theorem length_of_cutRunFrom {w passed s a b : List α} (h : cutRunFrom w passed s = some (a, b)) :
    a.length + w.length + b.length = passed.length + s.length := by
  induction s generalizing passed with
  | nil =>
    unfold cutRunFrom at h
    split at h
    · rename_i hw
      simp only [Option.some.injEq, Prod.mk.injEq] at h
      obtain ⟨rfl, rfl⟩ := h
      simp [List.isEmpty_iff.1 hw]
    · exact absurd h (by simp)
  | cons y s ih =>
    unfold cutRunFrom at h
    split at h
    · rename_i hw
      have := List.IsPrefix.length_le (List.isPrefixOf_iff_prefix.1 hw)
      simp only [Option.some.injEq, Prod.mk.injEq] at h
      obtain ⟨rfl, rfl⟩ := h
      simp only [List.length_reverse, List.length_drop, List.length_cons] at *
      omega
    · have := ih h
      simp only [List.length_cons] at *
      omega

theorem cutFirst_cons_self (x : α) (s : List α) : cutFirst x (x :: s) = some ([], s) := by
  simp [cutFirst]

theorem cutFirst_cons_of_ne {x y : α} (h : y ≠ x) (s : List α) :
    cutFirst x (y :: s) = (cutFirst x s).map fun p => (y :: p.1, p.2) := by
  simp only [cutFirst, List.dropWhile_cons, List.takeWhile_cons, bne_iff_ne.2 h, ↓reduceIte]
  split <;> simp

/-- Text without the marker before it is cut exactly at the marker. -/
theorem cutFirst_append {x : α} {a b : List α} (h : x ∉ a) :
    cutFirst x (a ++ x :: b) = some (a, b) := by
  induction a with
  | nil => exact cutFirst_cons_self x b
  | cons y a ih =>
    simp only [List.mem_cons, not_or] at h
    rw [List.cons_append, cutFirst_cons_of_ne (Ne.symm h.1), ih h.2]
    rfl

/-- There is no cut exactly if the marker does not occur. -/
theorem cutFirst_eq_none {x : α} {s : List α} : cutFirst x s = none ↔ x ∉ s := by
  induction s with
  | nil => simp [cutFirst]
  | cons y s ih =>
    by_cases hy : y = x
    · subst hy
      simp [cutFirst_cons_self]
    · simp [cutFirst_cons_of_ne hy, ih, Ne.symm hy]

/-- A cut splits the list around the first marker. -/
theorem eq_of_cutFirst {x : α} {s a b : List α} (h : cutFirst x s = some (a, b)) :
    s = a ++ x :: b ∧ x ∉ a := by
  induction s generalizing a b with
  | nil => simp [cutFirst] at h
  | cons y s ih =>
    by_cases hy : y = x
    · subst hy
      simp only [cutFirst_cons_self, Option.some.injEq, Prod.mk.injEq] at h
      obtain ⟨rfl, rfl⟩ := h
      simp
    · simp only [cutFirst_cons_of_ne hy, Option.map_eq_some_iff] at h
      obtain ⟨⟨a', b'⟩, h', hab⟩ := h
      simp only [Prod.mk.injEq] at hab
      obtain ⟨rfl, rfl⟩ := hab
      obtain ⟨rfl, hx⟩ := ih h'
      exact ⟨rfl, by simp [hx, Ne.symm hy]⟩

end UpnpGateway.Text
