/-
# Texts without blanks

What is written into a line of a request must not end the line, and what is written into one of
its words must not end the word.  A text without blanks does neither.  This file collects the
texts that have none: the visible characters of ASCII, numbers, and what is put together from
such texts.
-/
import UpnpGateway.Proofs.Text.Cut
import UpnpGateway.Proofs.Text.Numeral

namespace UpnpGateway.Text

/-- A text without blanks. -/
def IsSolid (s : List Char) : Prop := ∀ c ∈ s, isBlank c = false

instance (s : List Char) : Decidable (IsSolid s) :=
  decidable_of_iff (s.all (! isBlank ·) = true) (by simp [IsSolid])

/-- No visible character of ASCII is a blank. -/
lemma not_isBlank_of_visible {c : Char} (hlow : 0x20 < c.toNat) (hhigh : c.toNat ≤ 0x7E) :
    isBlank c = false := by
  have hne : ([0x20, 0x85, 0xA0, 0x1680, 0x2028, 0x2029, 0x202F, 0x205F, 0x3000] : List Nat).contains
      c.toNat = false := by
    simp only [List.contains_eq_mem, List.mem_cons, List.not_mem_nil, or_false, decide_eq_false_iff_not]
    omega
  have hcontrol : (decide (9 ≤ c.toNat) && decide (c.toNat ≤ 13)) = false := by
    simp only [Bool.and_eq_false_iff, decide_eq_false_iff_not]
    omega
  have hspaces : (decide (0x2000 ≤ c.toNat) && decide (c.toNat ≤ 0x200A)) = false := by
    simp only [Bool.and_eq_false_iff, decide_eq_false_iff_not]
    omega
  rw [isBlank, hne, hcontrol, hspaces]
  rfl

namespace IsSolid

variable {s t : List Char}

lemma nil : IsSolid [] := by simp [IsSolid]

lemma cons {c : Char} (hc : isBlank c = false) (hs : IsSolid s) : IsSolid (c :: s) :=
  List.forall_mem_cons.2 ⟨hc, hs⟩

lemma append (hs : IsSolid s) (ht : IsSolid t) : IsSolid (s ++ t) :=
  List.forall_mem_append.2 ⟨hs, ht⟩

lemma sublist (ht : IsSolid t) (h : s.Sublist t) : IsSolid s := fun c hc => ht c (h.subset hc)

lemma notMem (hs : IsSolid s) {c : Char} (hc : isBlank c = true) : c ∉ s := by
  intro hmem
  rw [hs c hmem] at hc
  cases hc

lemma flatMap {α : Type} {f : α → List Char} {l : List α} (h : ∀ a ∈ l, IsSolid (f a)) :
    IsSolid (l.flatMap f) := by
  intro c hc
  obtain ⟨a, ha, hca⟩ := List.mem_flatMap.1 hc
  exact h a ha c hca

lemma intercalate {c : Char} (hc : isBlank c = false) {ws : List (List Char)}
    (h : ∀ w ∈ ws, IsSolid w) : IsSolid (List.intercalate [c] ws) := by
  induction ws with
  | nil => exact nil
  | cons w ws ih =>
    obtain ⟨hw, hws⟩ := List.forall_mem_cons.1 h
    cases ws with
    | nil => simpa using hw
    | cons v ws =>
      rw [List.intercalate_cons_cons, List.append_assoc]
      exact hw.append ((cons hc nil).append (ih hws))

lemma decimal (n : Nat) : IsSolid (Text.decimal n) := fun _ hc => (plain_of_mem_decimal hc).1

end IsSolid

end UpnpGateway.Text
