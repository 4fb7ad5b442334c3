/-
# Hexadecimal numbers as they are written by others

A number in hexadecimal may have its letters in either case and zeros in front, and is read as
the same number.
-/
import UpnpGateway.Proofs.Text.Letter
import UpnpGateway.Proofs.Text.Numeral

namespace UpnpGateway.Text

/-! ## Digits -/

lemma toNat_lt_of_digitValue? {c : Char} {d : Nat} (h : digitValue? c = some d) :
    c.toNat < 128 := by
  by_contra hlt
  have hle : ∀ e : Char, e.toNat < 128 → ¬ c ≤ e := fun e he hce => hlt (Nat.lt_of_le_of_lt hce he)
  simp [digitValue?, hle '9' (by decide), hle 'f' (by decide), hle 'F' (by decide)] at h

/-- A digit is no blank and none of the signs that stand around numbers. -/
lemma plain_of_digitValue? {c : Char} {d : Nat} (h : digitValue? c = some d) :
    isBlank c = false ∧ c ≠ '+' ∧ c ≠ ';' := by
  have hall : ∀ n < 128, (digitValue? (Char.ofNat n)).isSome = true →
      isBlank (Char.ofNat n) = false ∧ Char.ofNat n ≠ '+' ∧ Char.ofNat n ≠ ';' := by
    decide
  have hc := hall c.toNat (toNat_lt_of_digitValue? h)
  rw [Char.ofNat_toNat, h] at hc
  exact hc rfl

/-- The letters among the digits have the same value in either case. -/
lemma digitValue?_toLower (c : Char) : digitValue? c.toLower = digitValue? c :=
  apply_toLower (by decide) c

/-! ## Numbers -/

lemma valueOf_lower (radix : Nat) (s : List Char) : valueOf radix (lower s) = valueOf radix s := by
  simp only [valueOf, lower, List.foldl_map, digitValue?_toLower]

/-- Digits are read alike in either case. -/
lemma digits?_lower (radix : Nat) (s : List Char) : digits? radix (lower s) = digits? radix s := by
  have hdigit : isDigitOf radix ∘ Char.toLower = isDigitOf radix := by
    funext c
    rw [Function.comp_apply, isDigitOf, isDigitOf, digitValue?_toLower]
  have hall : (lower s).all (isDigitOf radix) = s.all (isDigitOf radix) := by
    rw [lower, List.all_map, hdigit]
  have hempty : (lower s).isEmpty = s.isEmpty := by simp [lower]
  rw [digits?, digits?, hall, hempty, valueOf_lower]

/-- Zeros in front of digits do not count. -/
lemma digits?_replicate_append {radix : Nat} (hradix : 0 < radix) (k : Nat) {s : List Char}
    (hne : s ≠ []) : digits? radix (List.replicate k '0' ++ s) = digits? radix s := by
  have hzero : digitValue? '0' = some 0 := rfl
  induction k with
  | zero => rfl
  | succ k ih =>
    rw [← ih, List.replicate_succ, List.cons_append]
    have hne' : (List.replicate k '0' ++ s).isEmpty = false := by simp [hne]
    have hdigit : isDigitOf radix '0' = true := by simp [isDigitOf, hzero, hradix]
    simp [digits?, hne', hdigit, valueOf, hzero]

section Hexadecimal

variable {n : Nat} {s : List Char} (hs : lower s = hexadecimal n)
include hs

lemma ne_nil_of_lower_eq_hexadecimal : s ≠ [] := by
  rintro rfl
  exact hexadecimal_ne_nil n hs.symm

lemma exists_digitValue?_of_mem (k : Nat) {c : Char} (hc : c ∈ List.replicate k '0' ++ s) :
    ∃ d, digitValue? c = some d := by
  rcases List.mem_append.1 hc with hc | hc
  · rw [List.eq_of_mem_replicate hc]
    exact ⟨0, rfl⟩
  · have hlower : c.toLower ∈ hexadecimal n := hs ▸ List.mem_map_of_mem hc
    obtain ⟨d, hd, hcd⟩ := exists_of_mem_toDigits (by decide) hlower
    exact ⟨d, by rw [← digitValue?_toLower, hcd, digitValue?_digitChar hd]⟩

/-- A number is read back from its digits in either case with zeros in front. -/
lemma readNat?_hexadecimal (k : Nat) {max : Nat} (hn : n ≤ max) :
    readNat? 16 max (List.replicate k '0' ++ s) = some n := by
  have hdigits : digits? 16 (List.replicate k '0' ++ s) = some n := by
    rw [digits?_replicate_append (by decide) k (ne_nil_of_lower_eq_hexadecimal hs),
      ← digits?_lower, hs, hexadecimal, digits?_toDigits (by decide) (by decide)]
  have hsign : ∀ r, List.replicate k '0' ++ s ≠ '+' :: r := by
    intro r hr
    obtain ⟨d, hd⟩ := exists_digitValue?_of_mem hs k (c := '+') (by rw [hr]; simp)
    exact (plain_of_digitValue? hd).2.1 rfl
  rw [readNat?, hdigits]
  · simp [hn]
  · exact hsign

end Hexadecimal

end UpnpGateway.Text
