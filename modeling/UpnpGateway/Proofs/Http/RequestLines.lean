/-
# The lines of a request

The head of a request is a row of lines, of which each ends where the next one begins, and the
body stands behind the first empty line.  This file shows that a reader finds the lines and the
body that were written if no line has an end of a line in it.  Where one has, no reader finds
them: lines without ends of lines are the most that a head can be cut into.
-/
import UpnpGateway.Http.Reply
import UpnpGateway.Proofs.Text.Cut
import UpnpGateway.Proofs.Text.Utf8

namespace UpnpGateway.Http

open UpnpGateway.Text

/-- The bytes of a text have the end of a line where the text has one. -/
lemma lineEnd_infix_encodeUtf8_iff {s : List Char} :
    lineEnd <:+: encodeUtf8 s ↔ ['\r', '\n'] <:+: s := by
  constructor
  · intro h
    induction s with
    | nil => simp [encodeUtf8, lineEnd] at h
    | cons c s ih =>
      obtain ⟨u, v, h⟩ := h
      rw [encodeUtf8, List.flatMap_cons] at h
      rw [List.infix_cons_iff]
      by_cases hc : c = '\r'
      · subst hc
        have hreturn : String.utf8EncodeChar '\r' = [13] := rfl
        rw [hreturn] at h
        cases u with
        | nil =>
          have hrest : encodeUtf8 s = 10 :: v := by
            simpa [lineEnd, encodeUtf8] using h.symm
          obtain ⟨d, t, rfl, hd⟩ := exists_of_encodeUtf8_eq_cons (by decide) hrest
          obtain rfl : d = '\n' := Char.toNat_inj.1 hd
          exact .inl (by simp)
        | cons b u =>
          have hrest : u ++ lineEnd ++ v = encodeUtf8 s := (List.cons.inj h).2
          exact .inr (ih ⟨u, v, hrest⟩)
      · -- the end of a line is behind the bytes of any other character
        have hnot : (13 : UInt8) ∉ String.utf8EncodeChar c := by
          intro hmem
          exact hc (Char.toNat_inj.1 (toNat_of_mem_utf8EncodeChar hmem (by decide)).symm)
        obtain ⟨u', -, hrest⟩ := exists_of_append_eq_left (b := 10 :: v) hnot
          (by simpa [lineEnd] using h.symm)
        exact .inr (ih ⟨u', v, by simpa [lineEnd, encodeUtf8] using hrest.symm⟩)
  · rintro ⟨u, v, rfl⟩
    exact ⟨encodeUtf8 u, encodeUtf8 v, by rw [encodeUtf8_append, encodeUtf8_append]; rfl⟩

/-! ## Lines -/

/-- A row of bytes without an end of a line in it. -/
def IsLine (l : Bytes) : Prop := ¬ lineEnd <:+: l

instance (l : Bytes) : Decidable (IsLine l) :=
  decidable_of_iff (cutRun lineEnd l = none) cutRun_eq_none_iff

/-- A head that is put together from lines. -/
structure HasLines (head : Bytes) (ls : List Bytes) : Prop where
  eq : head = List.intercalate lineEnd ls
  isLine : ∀ l ∈ ls, IsLine l

section Cut

variable {l : Bytes} (hl : IsLine l) (rest : Bytes)
include hl

/-- A line is cut at its end. -/
lemma IsLine.cutRun_append : cutRun lineEnd (l ++ lineEnd ++ rest) = some (l, rest) := by
  have hpair : l ++ lineEnd ++ rest = l ++ 13 :: 10 :: rest := by simp [lineEnd]
  rw [hpair]
  exact cutRun_pair (cutRun_eq_none_iff.2 hl) (by simp) rest

lemma IsLine.not_prefix (hne : l ≠ []) : ¬ lineEnd <+: l ++ lineEnd ++ rest := by
  rintro ⟨t, ht⟩
  have hcut := hl.cutRun_append rest
  rw [← ht] at hcut
  have hempty : cutRun lineEnd (lineEnd ++ t) = some ([], t) := by
    simp [cutRun, cutRunFrom, lineEnd]
  rw [hempty] at hcut
  simp only [Option.some.injEq, Prod.mk.injEq] at hcut
  exact hne hcut.1.symm

end Cut

/-- Behind a line, the head ends at once or goes on. -/
lemma cutRunFrom_headEnd_append {l : Bytes} (hl : IsLine l) (passed rest : Bytes) :
    cutRunFrom headEnd passed (l ++ lineEnd ++ rest) =
      if lineEnd.isPrefixOf rest then some (passed.reverse ++ l, rest.drop 2)
      else cutRunFrom headEnd ((l ++ lineEnd).reverse ++ passed) rest := by
  induction l generalizing passed with
  | nil =>
    have hfirst : headEnd.isPrefixOf ([] ++ lineEnd ++ rest) = lineEnd.isPrefixOf rest := by
      simp [headEnd, lineEnd]
    have hsecond : headEnd.isPrefixOf (10 :: rest) = false := rfl
    rw [← hfirst]
    simp only [lineEnd, List.nil_append, List.cons_append, cutRunFrom, hsecond]
    simp [headEnd]
  | cons b l ih =>
    have hnot : ¬ headEnd.isPrefixOf (b :: (l ++ lineEnd ++ rest)) = true := by
      intro hp
      refine hl.not_prefix rest (List.cons_ne_nil b l) ?_
      exact (show lineEnd <+: headEnd from ⟨lineEnd, rfl⟩).trans (List.isPrefixOf_iff_prefix.1 hp)
    have hl' : IsLine l := fun h => hl (h.trans (List.suffix_cons b l).isInfix)
    rw [List.cons_append, List.cons_append, cutRunFrom, if_neg hnot, ih hl']
    simp

/-- A head of lines that are not empty is cut at its end. -/
lemma cutRun_headEnd {ls : List Bytes} (hne : ls ≠ []) (hls : ∀ l ∈ ls, IsLine l ∧ l ≠ [])
    (body : Bytes) :
    cutRun headEnd (List.intercalate lineEnd ls ++ headEnd ++ body) =
      some (List.intercalate lineEnd ls, body) := by
  have hfrom : ∀ passed, cutRunFrom headEnd passed (List.intercalate lineEnd ls ++ headEnd ++ body) =
      some (passed.reverse ++ List.intercalate lineEnd ls, body) := by
    induction ls with
    | nil => exact absurd rfl hne
    | cons l ls ih =>
      intro passed
      obtain ⟨⟨hl, -⟩, hls⟩ := List.forall_mem_cons.1 hls
      cases ls with
      | nil =>
        have hlast : List.intercalate lineEnd [l] ++ headEnd ++ body =
            l ++ lineEnd ++ (lineEnd ++ body) := by simp [headEnd, lineEnd]
        rw [hlast, cutRunFrom_headEnd_append hl, if_pos (by simp)]
        simp [lineEnd]
      | cons m ls =>
        obtain ⟨⟨hm, hmne⟩, -⟩ := List.forall_mem_cons.1 hls
        have hnot : ¬ lineEnd.isPrefixOf
            (List.intercalate lineEnd (m :: ls) ++ headEnd ++ body) = true := by
          rw [List.isPrefixOf_iff_prefix]
          cases ls with
          | nil =>
            have h := hm.not_prefix (lineEnd ++ body) hmne
            simpa [headEnd, lineEnd] using h
          | cons n ls =>
            rw [List.intercalate_cons_cons]
            simpa using hm.not_prefix (List.intercalate lineEnd (n :: ls) ++ headEnd ++ body) hmne
        have hsplit : List.intercalate lineEnd (l :: m :: ls) ++ headEnd ++ body =
            l ++ lineEnd ++ (List.intercalate lineEnd (m :: ls) ++ headEnd ++ body) := by
          simp [List.intercalate_cons_cons]
        rw [hsplit, cutRunFrom_headEnd_append hl, if_neg hnot, ih (by simp) hls]
        simp [List.intercalate_cons_cons]
  exact hfrom []

/-- Lines are the most parts that a head can be put together from, and as many parts are the
lines. -/
lemma length_le_of_intercalate_eq {ls ms : List Bytes} (hne : ms ≠ []) (hms : ∀ m ∈ ms, IsLine m)
    (h : List.intercalate lineEnd ls = List.intercalate lineEnd ms) :
    ls.length ≤ ms.length ∧ (ls.length = ms.length → ls = ms) := by
  induction ms generalizing ls with
  | nil => exact absurd rfl hne
  | cons m ms ih =>
    obtain ⟨hm, hms⟩ := List.forall_mem_cons.1 hms
    match ls, ms with
    | [], ms => simp
    | [l], [] =>
      obtain rfl : l = m := by simpa using h
      simp
    | [l], n :: ms => simp
    | l :: k :: ls, [] =>
      -- a single line cannot be put together from two parts
      refine absurd ?_ hm
      rw [List.intercalate_singleton, List.intercalate_cons_cons] at h
      exact ⟨l, List.intercalate lineEnd (k :: ls), h⟩
    | l :: k :: ls, n :: ms =>
      rw [List.intercalate_cons_cons, List.intercalate_cons_cons] at h
      have hcut := hm.cutRun_append (List.intercalate lineEnd (n :: ms))
      rw [← h] at hcut
      cases hl : cutRun lineEnd l with
      | none =>
        rw [IsLine.cutRun_append (cutRun_eq_none_iff.1 hl)] at hcut
        simp only [Option.some.injEq, Prod.mk.injEq] at hcut
        obtain ⟨rfl, hrest⟩ := hcut
        obtain ⟨hle, heq⟩ := ih (by simp) hms hrest
        refine ⟨Nat.succ_le_succ hle, fun hlen => ?_⟩
        rw [heq (Nat.succ.inj hlen)]
      | some p =>
        -- the first part has an end of a line, so what is behind it counts as a part more
        obtain ⟨p, q⟩ := p
        rw [List.append_assoc, cutRun_append hl] at hcut
        simp only [Option.some.injEq, Prod.mk.injEq] at hcut
        obtain ⟨rfl, hrest⟩ := hcut
        rw [← List.append_assoc, ← List.intercalate_cons_cons] at hrest
        obtain ⟨hle, -⟩ := ih (by simp) hms hrest
        simp only [List.length_cons] at hle ⊢
        exact ⟨by omega, by omega⟩

end UpnpGateway.Http
