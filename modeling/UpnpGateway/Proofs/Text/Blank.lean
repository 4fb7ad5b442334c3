/-
# Texts without blanks at their ends

Dropping what satisfies a test from the ends of a text leaves a text whose first and last
character fail the test, so that nothing is left for a second time.
-/
import Mathlib.Data.List.Induction
import Mathlib.Data.List.TakeWhile
import Mathlib.Tactic.Lemma
import UpnpGateway.Text.Blank

namespace UpnpGateway.Text

variable {α : Type} {p : α → Bool}

/-- A text is a run that satisfies a test and what is left behind the run. -/
lemma exists_span (p : α → Bool) (s : List α) :
    ∃ w r, s = w ++ r ∧ (∀ c ∈ w, p c = true) ∧ ∀ c, r.head? = some c → p c = false := by
  refine ⟨s.takeWhile p, s.dropWhile p, List.takeWhile_append_dropWhile.symm,
    fun c hc => List.mem_takeWhile_imp hc, fun c hc => ?_⟩
  have hhead := List.head?_dropWhile_not p s
  rw [hc] at hhead
  simpa using hhead

lemma dropEndWhile_prefix (p : α → Bool) (s : List α) : dropEndWhile p s <+: s := by
  obtain ⟨t, ht⟩ := List.dropWhile_suffix (l := s.reverse) p
  refine ⟨t.reverse, ?_⟩
  rw [dropEndWhile, ← List.reverse_append, ht, List.reverse_reverse]

lemma not_of_getLast?_dropEndWhile {s : List α} {c : α}
    (h : (dropEndWhile p s).getLast? = some c) : p c = false := by
  have hhead := List.head?_dropWhile_not p s.reverse
  rw [dropEndWhile, List.getLast?_reverse] at h
  rw [h] at hhead
  simpa using hhead

lemma not_of_head?_dropEndsWhile {s : List α} {c : α}
    (h : (dropEndsWhile p s).head? = some c) : p c = false := by
  have hhead := List.head?_dropWhile_not p s
  obtain ⟨t, ht⟩ := dropEndWhile_prefix p (s.dropWhile p)
  rw [dropEndsWhile] at h
  rw [← ht, List.head?_append, h] at hhead
  simpa using hhead

lemma dropEndWhile_append_of_ne {s w : List α} (hne : w ≠ [])
    (hw : ∀ c, w.getLast? = some c → p c = false) : dropEndWhile p (s ++ w) = s ++ w := by
  obtain ⟨u, c, rfl⟩ := List.eq_nil_or_concat w |>.resolve_left hne
  rw [List.concat_eq_append, ← List.append_assoc, dropEndWhile_concat, hw c (by simp)]
  simp

/-- From the end nothing is dropped beyond an item that fails the test. -/
lemma dropEndWhile_append {w : List α} (hne : w ≠ [])
    (hw : ∀ c, w.getLast? = some c → p c = false) (s : List α) :
    dropEndWhile p (w ++ s) = w ++ dropEndWhile p s := by
  induction s using List.reverseRecOn with
  | nil => simpa using dropEndWhile_append_of_ne (s := []) hne hw
  | append_singleton s c ih =>
    rw [← List.append_assoc, dropEndWhile_concat, dropEndWhile_concat, ih]
    split
    · rfl
    · rw [List.append_assoc]

/-- What is dropped at the ends satisfies the test. -/
lemma exists_dropEndsWhile (p : α → Bool) (s : List α) :
    ∃ u v, s = u ++ dropEndsWhile p s ++ v ∧ (∀ c ∈ u, p c = true) ∧ ∀ c ∈ v, p c = true := by
  refine ⟨s.takeWhile p, ((s.dropWhile p).reverse.takeWhile p).reverse, ?_,
    fun c hc => List.mem_takeWhile_imp hc,
    fun c hc => List.mem_takeWhile_imp (List.mem_reverse.1 hc)⟩
  rw [dropEndsWhile, dropEndWhile, List.append_assoc, ← List.reverse_append,
    List.takeWhile_append_dropWhile, List.reverse_reverse, List.takeWhile_append_dropWhile]

lemma infix_trim (s : List Char) : trim s <:+: s := by
  obtain ⟨u, v, hs, -, -⟩ := exists_dropEndsWhile isBlank s
  exact ⟨u, v, hs.symm⟩

lemma dropEndsWhile_append_left {u : List α} (hu : ∀ c ∈ u, p c = true) (s : List α) :
    dropEndsWhile p (u ++ s) = dropEndsWhile p s := by
  rw [dropEndsWhile, List.dropWhile_append_of_pos hu, dropEndsWhile]

lemma dropEndsWhile_append_right {v : List α} (hv : ∀ c ∈ v, p c = true) (s : List α) :
    dropEndsWhile p (s ++ v) = dropEndsWhile p s := by
  -- from the end, since that is where the items are dropped
  induction v using List.reverseRecOn with
  | nil => rw [List.append_nil]
  | append_singleton v c ih =>
    have hc : p c = true := hv c (by simp)
    rw [← ih fun d hd => hv d (by simp [hd]), ← List.append_assoc, dropEndsWhile, dropEndsWhile,
      List.dropWhile_append]
    split
    · rename_i hnil
      simp [List.isEmpty_iff.1 hnil, hc]
    · rw [dropEndWhile_concat, if_pos hc]

/-- Blanks of markup that are dropped first make no difference to the trimmed text. -/
lemma trim_dropEndsWhile (s : List Char) : trim (dropEndsWhile isMarkupBlank s) = trim s := by
  obtain ⟨u, v, hs, hu, hv⟩ := exists_dropEndsWhile isMarkupBlank s
  generalize dropEndsWhile isMarkupBlank s = m at hs
  rw [hs, trim, trim, dropEndsWhile_append_right fun c hc => isBlank_of_isMarkupBlank (hv c hc),
    dropEndsWhile_append_left fun c hc => isBlank_of_isMarkupBlank (hu c hc)]

lemma trim_of_forall {s : List Char} (hs : ∀ c ∈ s, isBlank c = false) : trim s = s :=
  trim_of_ends (fun c hc => hs c (List.mem_of_mem_head? hc))
    fun c hc => hs c (List.mem_of_mem_getLast? hc)

/-- Spaces around a text are trimmed with its own blanks. -/
lemma trim_spaces (i j : Nat) (s : List Char) :
    trim (List.replicate i ' ' ++ s ++ List.replicate j ' ') = trim s := by
  have hspace : ∀ k, ∀ c ∈ List.replicate k ' ', isBlank c = true := by
    intro k c hc
    rw [List.eq_of_mem_replicate hc]
    rfl
  rw [trim, dropEndsWhile_append_right (hspace j), dropEndsWhile_append_left (hspace i), trim]

/-- Behind a text without blanks at its ends only the end is trimmed. -/
lemma trim_append {w : List Char} (hne : w ≠ [])
    (hhead : ∀ c, w.head? = some c → isBlank c = false)
    (hlast : ∀ c, w.getLast? = some c → isBlank c = false) (s : List Char) :
    trim (w ++ s) = w ++ dropEndWhile isBlank s := by
  have hfront : (w ++ s).dropWhile isBlank = w ++ s := by
    cases w with
    | nil => exact absurd rfl hne
    | cons c w => rw [List.cons_append, List.dropWhile_cons_of_neg (by simp [hhead c rfl])]
  rw [trim, dropEndsWhile, hfront, dropEndWhile_append hne hlast]

@[simp] lemma trim_trim (s : List Char) : trim (trim s) = trim s :=
  trim_of_ends (fun _ hc => not_of_head?_dropEndsWhile hc)
    fun _ hc => not_of_getLast?_dropEndWhile hc

@[simp] lemma trimmed_trimmed (s : String) : trimmed (trimmed s) = trimmed s := by
  rw [trimmed, trimmed, String.toList_ofList, trim_trim]

end UpnpGateway.Text
