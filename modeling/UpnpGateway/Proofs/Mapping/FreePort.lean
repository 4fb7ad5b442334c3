/-
# The port that is taken

The search for a free port looks at the ports in use in increasing order and stops at the first
gap.  This file shows that the gap is one, and that no gap is skipped, so that the port that is found
is the least free one, and the search only fails when there is none.
-/
import Mathlib.Order.Bounds.Basic
import Mathlib.Tactic.Lemma
import UpnpGateway.Mapping.FreePort

namespace UpnpGateway

open UpnpGateway.Text

/-! ## Gaps -/

variable {start q : Nat} {ps : List Nat}

/-- What lies before the gap is in the list. -/
lemma mem_of_lt_firstGap (hle : start ≤ q) (hlt : q < firstGap start ps) : q ∈ ps := by
  induction ps generalizing start with
  | nil => exact absurd hlt (Nat.not_lt.2 hle)
  | cons p ps ih =>
    rw [firstGap] at hlt
    split at hlt
    · exact List.mem_cons_of_mem p (ih hle hlt)
    · split at hlt
      · rename_i hp
        rcases Nat.eq_or_lt_of_le hle with rfl | hlt'
        · rw [eq_of_beq hp]
          exact List.mem_cons_self
        · exact List.mem_cons_of_mem p (ih hlt' hlt)
      · exact absurd hlt (Nat.not_lt.2 hle)

/-- The gap itself is not. -/
lemma firstGap_notMem (hps : ps.Pairwise (· ≤ ·)) : firstGap start ps ∉ ps := by
  induction ps generalizing start with
  | nil => exact List.not_mem_nil
  | cons p ps ih =>
    obtain ⟨hp, hps⟩ := List.pairwise_cons.1 hps
    -- a gap is at or behind the place where the search is, and `p` is before that place
    have hskip : ∀ next, p < next → firstGap next ps ∉ p :: ps := by
      intro next hnext hmem
      rcases List.mem_cons.1 hmem with heq | hmem
      · have := le_firstGap next ps
        omega
      · exact ih hps hmem
    rw [firstGap]
    split
    · exact hskip start ‹_›
    · rename_i hge
      split
      · rename_i heq
        exact hskip (start + 1) (by rw [eq_of_beq heq]; omega)
      · rename_i hne
        intro hmem
        have hlt : start < p := by
          have : p ≠ start := fun h => hne (by rw [h, BEq.rfl])
          omega
        rcases List.mem_cons.1 hmem with heq | hmem
        · omega
        · exact absurd (hp _ hmem) (Nat.not_le.2 hlt)

/-! ## Ports -/

variable {used : List UInt16} {base port : UInt16}

lemma base_le_searchStart : base.toNat ≤ searchStart used base :=
  Nat.le_trans (Nat.le_max_right ..) (Nat.le_max_left ..)

lemma searchStart_pos : 0 < searchStart used base := Nat.le_max_right ..

/-- The first number that no port in use has, from the start of the search on. -/
def portGap (used : List UInt16) (base : UInt16) : Nat :=
  firstGap (searchStart used base) (used.map UInt16.toNat).mergeSort

lemma searchStart_le_portGap : searchStart used base ≤ portGap used base := le_firstGap ..

lemma nextFreePort_eq :
    nextFreePort used base =
      if portGap used base ≤ maxPort then .ok (.ofNat (portGap used base))
      else .error (.portsExhausted (.ofNat (searchStart used base))) := rfl

lemma toNat_ofNat_portGap (h : portGap used base ≤ maxPort) :
    (UInt16.ofNat (portGap used base)).toNat = portGap used base :=
  UInt16.toNat_ofNat_of_lt' (Nat.lt_succ_of_le h)

/-- The port at the gap is not in use. -/
lemma portGap_notMem (h : portGap used base ≤ maxPort) : .ofNat (portGap used base) ∉ used := by
  have hsorted : (used.map UInt16.toNat).mergeSort.Pairwise (· ≤ ·) := by
    refine (List.pairwise_mergeSort ?_ ?_ _).imp of_decide_eq_true
    · intro a b c hab hbc
      exact decide_eq_true (Nat.le_trans (of_decide_eq_true hab) (of_decide_eq_true hbc))
    · intro a b
      simpa using Nat.le_total a b
  have hgap : portGap used base ∉ (used.map UInt16.toNat).mergeSort := firstGap_notMem hsorted
  intro hmem
  exact hgap (List.mem_mergeSort.2 (List.mem_map.2 ⟨_, hmem, toNat_ofNat_portGap h⟩))

/-- All ports from the start of the search up to the gap are in use. -/
lemma mem_of_lt_portGap (hle : searchStart used base ≤ port.toNat)
    (hlt : port.toNat < portGap used base) : port ∈ used := by
  obtain ⟨p, hp, heq⟩ := List.mem_map.1 (List.mem_mergeSort.1 (mem_of_lt_firstGap hle hlt))
  rwa [← UInt16.toNat_inj.1 heq]

/-- A port that is found is not zero, not below the wanted one, and not in use. -/
lemma nextFreePort_ok (h : nextFreePort used base = .ok port) :
    0 < port ∧ base ≤ port ∧ port ∉ used := by
  rw [nextFreePort_eq] at h
  split at h
  · rename_i hgap
    obtain rfl := Except.ok.inj h
    refine ⟨UInt16.lt_iff_toNat_lt.2 ?_, UInt16.le_iff_toNat_le.2 ?_, portGap_notMem hgap⟩
    · rw [toNat_ofNat_portGap hgap]
      exact Nat.lt_of_lt_of_le searchStart_pos searchStart_le_portGap
    · rw [toNat_ofNat_portGap hgap]
      exact Nat.le_trans base_le_searchStart searchStart_le_portGap
  · cases h

/-- No port is found exactly if all from the start of the search on are in use. -/
lemma nextFreePort_error_iff {e : Error} :
    nextFreePort used base = .error e ↔
      (∀ p : UInt16, searchStart used base ≤ p.toNat → p ∈ used) ∧
        e = .portsExhausted (.ofNat (searchStart used base)) := by
  rw [nextFreePort_eq]
  constructor
  · intro h
    split at h
    · cases h
    · rename_i hgap
      refine ⟨fun p hp => mem_of_lt_portGap hp ?_, (Except.error.inj h).symm⟩
      exact Nat.lt_of_lt_of_le p.toNat_lt (Nat.not_le.1 hgap)
  · rintro ⟨hused, rfl⟩
    refine if_neg fun hgap => portGap_notMem hgap (hused _ ?_)
    rw [toNat_ofNat_portGap hgap]
    exact searchStart_le_portGap

/-! ## The least free port -/

/-- The port from which on a free one is looked for: the wanted one, or the lowest one in use if that
is higher, but not zero. -/
def startPort (used : List UInt16) (base : UInt16) : UInt16 :=
  max (max (used.min?.getD 0) base) 1

lemma min?_map_toNat (used : List UInt16) :
    (used.map UInt16.toNat).min? = used.min?.map UInt16.toNat := by
  cases h : used.min? with
  | none =>
    rw [List.min?_eq_none_iff.1 h]
    rfl
  | some lowest =>
    obtain ⟨hmem, hle⟩ := List.min?_eq_some_iff.1 h
    refine List.min?_eq_some_iff.2 ⟨List.mem_map_of_mem hmem, fun n hn => ?_⟩
    obtain ⟨p, hp, rfl⟩ := List.mem_map.1 hn
    exact UInt16.le_iff_toNat_le.1 (hle p hp)

lemma toNat_startPort : (startPort used base).toNat = searchStart used base := by
  rw [startPort, searchStart, UInt16.toNat_max, UInt16.toNat_max, min?_map_toNat]
  cases used.min? <;> rfl

lemma startPort_le_iff : startPort used base ≤ port ↔ searchStart used base ≤ port.toNat := by
  rw [UInt16.le_iff_toNat_le, toNat_startPort]

lemma ofNat_searchStart : .ofNat (searchStart used base) = startPort used base := by
  rw [← toNat_startPort, UInt16.ofNat_toNat]

lemma isLeast_portGap (h : portGap used base ≤ maxPort) :
    IsLeast {p | startPort used base ≤ p ∧ p ∉ used} (.ofNat (portGap used base)) := by
  have hgap := toNat_ofNat_portGap h
  refine ⟨⟨startPort_le_iff.2 ?_, portGap_notMem h⟩, fun p hp => UInt16.le_iff_toNat_le.2 ?_⟩
  · rw [hgap]
    exact searchStart_le_portGap
  · rw [hgap]
    by_contra hlt
    exact hp.2 (mem_of_lt_portGap (startPort_le_iff.1 hp.1) (Nat.not_le.1 hlt))

/-- The port that is found is the least one that is free, from the start of the search on.  So it is
not zero, not below the wanted one and not in use.  The search fails only if there is none, and then
says where it began. -/
theorem nextFreePort_isLeast (used : List UInt16) (base : UInt16) :
    (∀ port, nextFreePort used base = .ok port ↔
      IsLeast {p | startPort used base ≤ p ∧ p ∉ used} port) ∧
    ((∃ port, nextFreePort used base = .ok port) ↔ ∃ p, startPort used base ≤ p ∧ p ∉ used) ∧
    (∀ port, nextFreePort used base = .ok port → 0 < port ∧ base ≤ port ∧ port ∉ used) ∧
    ∀ e, nextFreePort used base = .error e ↔
      (∀ p, startPort used base ≤ p → p ∈ used) ∧ e = .portsExhausted (startPort used base) := by
  have herror : ∀ e, nextFreePort used base = .error e ↔
      (∀ p, startPort used base ≤ p → p ∈ used) ∧
        e = .portsExhausted (startPort used base) := by
    intro e
    simp only [nextFreePort_error_iff, startPort_le_iff, ofNat_searchStart]
  have hleast : ∀ port, nextFreePort used base = .ok port →
      IsLeast {p | startPort used base ≤ p ∧ p ∉ used} port := by
    intro port hok
    rw [nextFreePort_eq] at hok
    split at hok
    · rename_i hgap
      obtain rfl := Except.ok.inj hok
      exact isLeast_portGap hgap
    · cases hok
  -- where a port is free the search does not fail
  have hfound : (∃ p, startPort used base ≤ p ∧ p ∉ used) →
      ∃ port, nextFreePort used base = .ok port := by
    rintro ⟨p, hp, hfree⟩
    cases hnext : nextFreePort used base with
    | ok port => exact ⟨port, rfl⟩
    | error e => exact absurd (((herror e).1 hnext).1 p hp) hfree
  refine ⟨fun port => ⟨hleast port, fun h => ?_⟩, ⟨?_, hfound⟩, fun port => nextFreePort_ok, herror⟩
  · obtain ⟨port', hok⟩ := hfound ⟨port, h.1⟩
    have hport' := hleast port' hok
    rw [hok, UInt16.le_antisymm (hport'.2 h.1) (h.2 hport'.1)]
  · rintro ⟨port, hok⟩
    exact ⟨port, (hleast port hok).1⟩

end UpnpGateway
