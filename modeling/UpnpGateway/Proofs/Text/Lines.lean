/-
# Lines and words

A text is cut into lines at its line feeds and into words at its blanks.  This file says how the
first line and the first word are cut off.
-/
import UpnpGateway.Proofs.Text.Cut
import UpnpGateway.Proofs.Text.Solid

namespace UpnpGateway.Text

/-! ## Lines -/

@[simp] lemma dropReturn_concat (s : List Char) : dropReturn (s ++ ['\r']) = s := by
  simp [dropReturn]

/-- A line that loses the return at its end loses no more than a blank. -/
lemma dropReturn_cases (s : List Char) : dropReturn s = s ∨ s = dropReturn s ++ ['\r'] := by
  rcases List.eq_nil_or_concat s with rfl | ⟨t, c, rfl⟩
  · exact .inl rfl
  · rw [List.concat_eq_append]
    by_cases hc : c = '\r'
    · subst hc
      exact .inr (by rw [dropReturn_concat])
    · exact .inl (by simp [dropReturn, hc])

@[simp] lemma trim_dropReturn (s : List Char) : trim (dropReturn s) = trim s := by
  rcases dropReturn_cases s with h | h
  · rw [h]
  · have hreturn : trim (dropReturn s ++ ['\r']) = trim (dropReturn s) :=
      dropEndsWhile_append_right (List.forall_mem_singleton.2 rfl) (dropReturn s)
    rw [← h] at hreturn
    exact hreturn.symm

section Lines

variable {s : List Char} (hs : '\n' ∉ s)
include hs

lemma forall_ne_lineFeed : ∀ c ∈ s, (c == '\n') = false := by
  intro c hc
  rw [beq_eq_false_iff_ne]
  rintro rfl
  exact hs hc

/-- The first line ends at the first line feed. -/
lemma lines_append_cons (t : List Char) : lines (s ++ '\n' :: t) = dropReturn s :: lines t := by
  have hne := splitWhere_ne_nil (· == '\n') t
  rw [lines, splitWhere_append_cons (forall_ne_lineFeed hs) (by rfl), lines]
  rw [List.dropLast_cons_of_ne_nil hne, List.map_cons, List.cons_append,
    List.getLast?_cons_of_ne_nil hne]

lemma lines_of_notMem (hne : s ≠ []) : lines s = [s] := by
  simp [lines, splitWhere_of_forall (forall_ne_lineFeed hs), hne]

end Lines

@[simp] lemma lines_nil : lines [] = [] := rfl

/-! ## Words -/

/-- The first word ends at the first blank. -/
lemma words_append_cons {w : List Char} (hw : IsSolid w) (hne : w ≠ []) {c : Char}
    (hc : isBlank c = true) (s : List Char) : words (w ++ c :: s) = w :: words s := by
  rw [words, splitWhere_append_cons hw hc, List.filter_cons_of_pos (by simpa using hne), words]

/-- A text without blanks is one word. -/
lemma words_of_isSolid {w : List Char} (hw : IsSolid w) (hne : w ≠ []) : words w = [w] := by
  rw [words, splitWhere_of_forall hw, List.filter_cons_of_pos (by simpa using hne),
    List.filter_nil]

end UpnpGateway.Text
