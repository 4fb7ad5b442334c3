/-
# The case of letters

Two texts that differ in the case of letters agree in everything that is not a letter.
-/
import Mathlib.Tactic.Lemma
import UpnpGateway.Text.Blank
import UpnpGateway.Text.Letter

namespace UpnpGateway.Text

/-! ## Characters -/

lemma isUpper_iff {c : Char} : c.isUpper = true ↔ 'A'.val ≤ c.val ∧ c.val ≤ 'Z'.val :=
  decide_eq_true_iff

lemma isLower_iff {c : Char} : c.isLower = true ↔ 'a'.val ≤ c.val ∧ c.val ≤ 'z'.val :=
  Bool.and_eq_true_iff.trans (and_congr decide_eq_true_iff decide_eq_true_iff)

lemma toLower_of_not_isUpper {c : Char} (h : ¬ c.isUpper = true) : c.toLower = c :=
  dif_neg fun hc => h (isUpper_iff.2 hc)

lemma toUpper_of_not_isLower {c : Char} (h : ¬ c.isLower = true) : c.toUpper = c :=
  dif_neg fun hc => h (isLower_iff.2 hc)

lemma toNat_lt_of_isUpper {c : Char} (h : c.isUpper = true) : c.toNat < 128 :=
  Nat.lt_of_le_of_lt (UInt32.le_iff_toNat_le.1 (isUpper_iff.1 h).2) (by decide)

lemma toNat_lt_of_isLower {c : Char} (h : c.isLower = true) : c.toNat < 128 :=
  Nat.lt_of_le_of_lt (UInt32.le_iff_toNat_le.1 (isLower_iff.1 h).2) (by decide)

/-- What is the same for the letters of ASCII in either case is so for all characters. -/
lemma apply_toLower {β : Type} {f : Char → β}
    (h : ∀ n < 128, f (Char.ofNat n).toLower = f (Char.ofNat n)) (c : Char) :
    f c.toLower = f c := by
  by_cases hc : c.isUpper = true
  · simpa using h c.toNat (toNat_lt_of_isUpper hc)
  · rw [toLower_of_not_isUpper hc]

lemma apply_toUpper {β : Type} {f : Char → β}
    (h : ∀ n < 128, f (Char.ofNat n).toUpper = f (Char.ofNat n)) (c : Char) :
    f c.toUpper = f c := by
  by_cases hc : c.isLower = true
  · simpa using h c.toNat (toNat_lt_of_isLower hc)
  · rw [toUpper_of_not_isLower hc]

lemma isAlpha_toLower (c : Char) : c.toLower.isAlpha = c.isAlpha := apply_toLower (by decide) c

lemma toLower_toLower (c : Char) : c.toLower.toLower = c.toLower := apply_toLower (by decide) c

lemma toLower_toUpper (c : Char) : c.toUpper.toLower = c.toLower := apply_toUpper (by decide) c

lemma isLower_toUpper (c : Char) : c.toUpper.isLower = false := by
  by_cases hc : c.isLower = true
  · have hall : ∀ n < 128, (Char.ofNat n).toUpper.isLower = false := by decide
    rw [← Char.ofNat_toNat c]
    exact hall c.toNat (toNat_lt_of_isLower hc)
  · rw [toUpper_of_not_isLower hc]
    exact Bool.eq_false_iff.2 hc

lemma toLower_eq_iff {c d : Char} (hd : d.isAlpha = false) : c.toLower = d ↔ c = d := by
  by_cases hc : c.isUpper = true
  · have halpha : c.isAlpha = true := Bool.or_eq_true_iff.2 (.inl hc)
    constructor
    · rintro rfl
      rw [isAlpha_toLower, halpha] at hd
      cases hd
    · rintro rfl
      rw [halpha] at hd
      cases hd
  · rw [toLower_of_not_isUpper hc]

/-- Characters that differ in case only are the same where they are no letters. -/
lemma eq_iff_of_toLower_eq {c c' d : Char} (h : c.toLower = c'.toLower)
    (hd : d.isAlpha = false) : c = d ↔ c' = d := by
  rw [← toLower_eq_iff hd, h, toLower_eq_iff hd]

lemma isBlank_toLower (c : Char) : isBlank c.toLower = isBlank c := apply_toLower (by decide) c

lemma isMarkupBlank_congr {c c' : Char} (h : c.toLower = c'.toLower) :
    isMarkupBlank c = isMarkupBlank c' := by
  have hiff : ∀ d : Char, d.isAlpha = false → (c == d) = (c' == d) := by
    intro d hd
    rw [Bool.eq_iff_iff, beq_iff_eq, beq_iff_eq, eq_iff_of_toLower_eq h hd]
  rw [isMarkupBlank, isMarkupBlank, hiff ' ' rfl, hiff '\t' rfl, hiff '\r' rfl, hiff '\n' rfl]

lemma isMarkupBlank_toLower (c : Char) : isMarkupBlank c.toLower = isMarkupBlank c :=
  isMarkupBlank_congr (toLower_toLower c)

/-! ## Texts -/

lemma lower_append (s t : List Char) : lower (s ++ t) = lower s ++ lower t := List.map_append

@[simp] lemma lower_lower (s : List Char) : lower (lower s) = lower s := by
  rw [lower, lower, List.map_map]
  exact List.map_congr_left fun c _ => toLower_toLower c

lemma lower_upper (s : List Char) : lower (upper s) = lower s := by
  rw [lower, upper, List.map_map]
  exact List.map_congr_left fun c _ => toLower_toUpper c

/-- The two texts have letters in the same places. -/
lemma lower_cons_eq_lower_cons {c c' : Char} {s s' : List Char} :
    lower (c :: s) = lower (c' :: s') ↔ c.toLower = c'.toLower ∧ lower s = lower s' := by
  rw [lower, lower, List.map_cons, List.map_cons, List.cons.injEq, lower, lower]

lemma exists_of_lower_cons {c : Char} {s t : List Char} (h : lower (c :: s) = lower t) :
    ∃ c' s', t = c' :: s' ∧ c.toLower = c'.toLower ∧ lower s = lower s' := by
  cases t with
  | nil => simp [lower] at h
  | cons c' s' => exact ⟨c', s', rfl, lower_cons_eq_lower_cons.1 h⟩

lemma mem_iff_of_lower_eq {s t : List Char} (h : lower s = lower t) {d : Char}
    (hd : d.isAlpha = false) : d ∈ s ↔ d ∈ t := by
  induction s generalizing t with
  | nil =>
    cases t with
    | nil => rfl
    | cons c t => simp [lower] at h
  | cons c s ih =>
    obtain ⟨c', s', rfl, hc, hs⟩ := exists_of_lower_cons h
    rw [List.mem_cons, List.mem_cons, ih hs, eq_comm, eq_iff_of_toLower_eq hc hd, eq_comm]

end UpnpGateway.Text
