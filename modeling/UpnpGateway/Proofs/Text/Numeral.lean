/-
# Numbers are read as they are written

The digits of a number are read back as the number, in any radix up to sixteen and hence for
ports and for numbers of 32 bits.
-/
import Mathlib.Tactic.Lemma
import UpnpGateway.Proofs.Text.Blank
import UpnpGateway.Text.Numeral

namespace UpnpGateway.Text

/-! ## Digits -/

lemma digitValue?_digitChar {d : Nat} (hd : d < 16) : digitValue? d.digitChar = some d := by
  revert d
  decide

/-- A digit is no blank and none of the signs that stand around numbers. -/
lemma digitChar_plain {d : Nat} (hd : d < 16) :
    isBlank d.digitChar = false ∧ d.digitChar ≠ '.' ∧ d.digitChar ≠ ':' ∧ d.digitChar ≠ '+' ∧
      d.digitChar ≠ '-' := by
  revert d
  decide

/-- What is read as a number has nothing but digits in it. -/
lemma notMem_of_digits? {d : Char} (hd : digitValue? d = none) {radix n : Nat} {ds : List Char}
    (h : digits? radix ds = some n) : d ∉ ds := by
  intro hmem
  rw [digits?] at h
  split at h
  · rename_i hall
    have hdigit := List.all_eq_true.1 (Bool.and_eq_true_iff.1 hall).2 d hmem
    simp [isDigitOf, hd] at hdigit
  · cases h

section Radix

variable {b : Nat} (hb : 1 < b)
include hb

lemma exists_of_mem_toDigits {n : Nat} {c : Char} (hc : c ∈ Nat.toDigits b n) :
    ∃ d < b, c = d.digitChar := by
  induction n using Nat.strongRecOn with
  | _ n ih =>
    rw [Nat.toDigits_eq_if hb] at hc
    split at hc
    · rename_i hn
      exact ⟨n, hn, by simpa using hc⟩
    · rename_i hn
      rcases List.mem_append.1 hc with hc | hc
      · exact ih (n / b) (Nat.div_lt_self (by omega) hb) hc
      · exact ⟨n % b, Nat.mod_lt n (by omega), by simpa using hc⟩

/-- Only zero is written with a zero in front. -/
lemma head?_toDigits {n : Nat} (hn : 0 < n) : (Nat.toDigits b n).head? ≠ some '0' := by
  induction n using Nat.strongRecOn with
  | _ n ih =>
    rw [Nat.toDigits_eq_if hb]
    split
    · simp only [List.head?_cons, ne_eq, Option.some.injEq, Nat.digitChar_eq_zero]
      omega
    · rename_i hlt
      have hdiv : 0 < n / b := Nat.div_pos (by omega) (by omega)
      have h := ih (n / b) (Nat.div_lt_self hn hb) hdiv
      rw [List.head?_append]
      cases hd : (Nat.toDigits b (n / b)).head? with
      | none => simp at hd
      | some c => simpa [hd] using h

lemma valueOf_toDigits (hb' : b ≤ 16) (n : Nat) : valueOf b (Nat.toDigits b n) = n := by
  -- the last digit is the remainder, and the digits before it are those of the quotient
  induction n using Nat.strongRecOn with
  | _ n ih =>
    rw [Nat.toDigits_eq_if hb]
    split
    · simp [valueOf, digitValue?_digitChar (show n < 16 by omega)]
    · have hmod : n % b < b := Nat.mod_lt n (by omega)
      have h := ih (n / b) (Nat.div_lt_self (by omega) hb)
      rw [valueOf, List.foldl_append, ← valueOf, h]
      simp [digitValue?_digitChar (show n % b < 16 by omega), Nat.div_add_mod']

/-- The digits of a number are read back. -/
lemma digits?_toDigits (hb' : b ≤ 16) (n : Nat) : digits? b (Nat.toDigits b n) = some n := by
  have hall : (Nat.toDigits b n).all (isDigitOf b) = true := by
    rw [List.all_eq_true]
    intro c hc
    obtain ⟨d, hd, rfl⟩ := exists_of_mem_toDigits hb hc
    simp [isDigitOf, digitValue?_digitChar (show d < 16 by omega), hd]
  have hne : (Nat.toDigits b n).isEmpty = false := by simp
  rw [digits?, hall, hne, valueOf_toDigits hb hb']
  rfl

end Radix

/-! ## Decimal numbers -/

lemma plain_of_mem_decimal {n : Nat} {c : Char} (hc : c ∈ decimal n) :
    isBlank c = false ∧ c ≠ '.' ∧ c ≠ ':' ∧ c ≠ '+' ∧ c ≠ '-' := by
  obtain ⟨d, hd, rfl⟩ := exists_of_mem_toDigits (by decide) hc
  exact digitChar_plain (by omega)

lemma isDigit_of_mem_decimal {n : Nat} {c : Char} (hc : c ∈ decimal n) : c.isDigit = true :=
  Nat.isDigit_of_mem_toDigits (by decide) (by decide) hc

/-- A number from one hundred on has three digits. -/
lemma three_le_length_decimal {n : Nat} (hn : 100 ≤ n) : 3 ≤ (decimal n).length := by
  have hiff := Nat.length_toDigits_le_iff (b := 10) (n := n) (k := 2) (by decide) (by decide)
  rw [decimal]
  omega

/-- A number has no blanks at its ends. -/
lemma trimmed_decimal (n : Nat) :
    trimmed (String.ofList (decimal n)) = String.ofList (decimal n) := by
  rw [trimmed, String.toList_ofList, trim_of_forall fun c hc => (plain_of_mem_decimal hc).1]

lemma hexadecimal_ne_nil (n : Nat) : hexadecimal n ≠ [] := by
  rw [hexadecimal]
  exact Nat.toDigits_ne_nil

lemma plain_of_mem_hexadecimal {n : Nat} {c : Char} (hc : c ∈ hexadecimal n) :
    isBlank c = false ∧ c ≠ '.' ∧ c ≠ ':' ∧ c ≠ '+' ∧ c ≠ '-' := by
  obtain ⟨d, hd, rfl⟩ := exists_of_mem_toDigits (by decide) hc
  exact digitChar_plain hd

lemma readNat?_decimal {n max : Nat} (h : n ≤ max) : readNat? 10 max (decimal n) = some n := by
  have hsign : ∀ r, decimal n ≠ '+' :: r := by
    intro r hr
    have hc : '+' ∈ decimal n := by simp [hr]
    exact (plain_of_mem_decimal hc).2.2.2.1 rfl
  rw [readNat?, decimal, digits?_toDigits (by decide) (by decide)]
  · simp [h]
  · exact hsign

@[simp] lemma readPort?_decimal (port : UInt16) : readPort? (decimal port.toNat) = some port := by
  have hle : port.toNat ≤ maxPort := Nat.le_of_lt_succ port.toNat_lt
  rw [readPort?, readNat?_decimal hle, Option.map_some, UInt16.ofNat_toNat]

@[simp] lemma readWord?_decimal (n : UInt32) : readWord? (decimal n.toNat) = some n := by
  have hle : n.toNat ≤ maxWord := Nat.le_of_lt_succ n.toNat_lt
  rw [readWord?, readNat?_decimal hle, Option.map_some, UInt32.ofNat_toNat]

/-! ## Numbers with a sign -/

/-- The written form of a number is the usual one. -/
lemma ofList_signedDecimal (n : Int) : String.ofList (signedDecimal n) = toString n := by
  cases n with
  | ofNat m => rfl
  | negSucc m => rw [signedDecimal, ← List.singleton_append, String.ofList_append]; rfl

/-- A number is written in digits, and with a minus sign if need be. -/
lemma plain_of_mem_signedDecimal {n : Int} {c : Char} (hc : c ∈ signedDecimal n) :
    isBlank c = false ∧ c.isAlpha = false := by
  have hdigit : ∀ m, c ∈ decimal m → isBlank c = false ∧ c.isAlpha = false := by
    intro m hm
    obtain ⟨d, hd, rfl⟩ := exists_of_mem_toDigits (by decide) hm
    clear hc hm
    revert d
    decide
  cases n with
  | ofNat m => exact hdigit m hc
  | negSucc m =>
    rcases List.mem_cons.1 hc with rfl | hc
    · decide
    · exact hdigit (m + 1) hc

lemma trim_signedDecimal (n : Int) : trim (signedDecimal n) = signedDecimal n :=
  trim_of_forall fun _ hc => (plain_of_mem_signedDecimal hc).1

/-- A number between the bounds is read back. -/
lemma readInt?_signedDecimal (min max n : Int) :
    readInt? min max (signedDecimal n) = if min ≤ n ∧ n ≤ max then some n else none := by
  have hread : ∀ m, digits? 10 (decimal m) = some m := digits?_toDigits (by decide) (by decide)
  cases n with
  | ofNat m =>
    have hplain : ∀ c r, decimal m = c :: r → c ≠ '+' ∧ c ≠ '-' := by
      intro c r hr
      have hc : c ∈ decimal m := by simp [hr]
      exact (plain_of_mem_decimal hc).2.2.2
    rw [signedDecimal, readInt?, hread]
    · simp [Option.filter]
    · exact fun r hr => (hplain _ r hr).2 rfl
    · exact fun r hr => (hplain _ r hr).1 rfl
  | negSucc m => simp [signedDecimal, readInt?, hread, Option.filter, Int.negSucc_eq]

lemma signedDecimal_injective : Function.Injective signedDecimal := by
  intro m n h
  have hm := readInt?_signedDecimal m m m
  rw [h, readInt?_signedDecimal] at hm
  split at hm
  · simpa using hm.symm
  · simp at hm

end UpnpGateway.Text
