/-
# Cuts and what follows them

A reader of a stream cuts what has arrived at a run of items.  The cut is found in the items
up to the end of the run, so more items behind them do not move it.  A list that is put
together with separators is cut into its parts again.
-/
import Mathlib.Data.List.Chain
import Mathlib.Tactic.Lemma
import UpnpGateway.Text.Cut

namespace UpnpGateway.Text

variable {α : Type} [BEq α] [LawfulBEq α]

/-- A cut at a run splits the list around the run. -/
lemma exists_of_cutRunFrom {w passed s a b : List α} (h : cutRunFrom w passed s = some (a, b)) :
    ∃ u, a = passed.reverse ++ u ∧ s = u ++ w ++ b := by
  induction s generalizing passed with
  | nil =>
    rw [cutRunFrom] at h
    split at h
    · rename_i hw
      simp only [Option.some.injEq, Prod.mk.injEq] at h
      obtain ⟨rfl, rfl⟩ := h
      exact ⟨[], by simp [List.isEmpty_iff.1 hw]⟩
    · simp at h
  | cons y s ih =>
    rw [cutRunFrom] at h
    split at h
    · rename_i hw
      obtain ⟨t, ht⟩ := List.isPrefixOf_iff_prefix.1 hw
      simp only [← ht, List.drop_left, Option.some.injEq, Prod.mk.injEq] at h
      obtain ⟨rfl, rfl⟩ := h
      exact ⟨[], by simp [ht]⟩
    · obtain ⟨u, rfl, rfl⟩ := ih h
      exact ⟨y :: u, by simp⟩

lemma eq_of_cutRun {w s a b : List α} (h : cutRun w s = some (a, b)) : s = a ++ w ++ b := by
  obtain ⟨u, rfl, hs⟩ := exists_of_cutRunFrom h
  simpa using hs

/-- A cut stays where it is when more follows. -/
lemma cutRunFrom_append {w passed s a b : List α} (h : cutRunFrom w passed s = some (a, b))
    (t : List α) : cutRunFrom w passed (s ++ t) = some (a, b ++ t) := by
  induction s generalizing passed with
  | nil =>
    rw [cutRunFrom] at h
    split at h
    · rename_i hw
      simp only [Option.some.injEq, Prod.mk.injEq] at h
      obtain ⟨rfl, rfl⟩ := h
      rw [List.isEmpty_iff.1 hw]
      cases t <;> simp [cutRunFrom]
    · simp at h
  | cons y s ih =>
    rw [cutRunFrom] at h
    rw [List.cons_append, cutRunFrom]
    split at h
    · rename_i hw
      have hp := List.isPrefixOf_iff_prefix.1 hw
      have hp' : w <+: y :: (s ++ t) := hp.trans (List.prefix_append (y :: s) t)
      simp only [Option.some.injEq, Prod.mk.injEq] at h
      obtain ⟨rfl, rfl⟩ := h
      rw [if_pos (List.isPrefixOf_iff_prefix.2 hp')]
      rw [← List.cons_append, List.drop_append_of_le_length hp.length_le]
    · rename_i hw
      obtain ⟨u, -, hu⟩ := exists_of_cutRunFrom h
      have hw' : ¬ w.isPrefixOf (y :: (s ++ t)) = true := by
        intro hc
        apply hw
        rw [List.isPrefixOf_iff_prefix] at hc ⊢
        -- the run was found further on, so it is not longer than what was there
        refine List.prefix_of_prefix_length_le hc (List.prefix_append (y :: s) t) ?_
        rw [hu]
        simp only [List.length_cons, List.length_append]
        omega
      rw [if_neg hw']
      exact ih h

lemma cutRun_append {w s a b : List α} (h : cutRun w s = some (a, b)) (t : List α) :
    cutRun w (s ++ t) = some (a, b ++ t) := cutRunFrom_append h t

/-- Lists that go on behind their first marker alike are alike before it and behind it. -/
lemma append_cons_inj {x : α} {a b s t : List α} (ha : x ∉ a) (hb : x ∉ b)
    (h : a ++ x :: s = b ++ x :: t) : a = b ∧ s = t := by
  have hcut := congrArg (cutFirst x) h
  rw [cutFirst_append ha, cutFirst_append hb] at hcut
  simpa using hcut

/-- A cut at the last marker splits the list around it. -/
lemma eq_of_cutLast {x : α} {s a b : List α} (h : cutLast x s = some (a, b)) :
    s = a ++ x :: b ∧ x ∉ b := by
  obtain ⟨⟨a', b'⟩, hcut, hab⟩ := Option.map_eq_some_iff.1 h
  simp only [Prod.mk.injEq] at hab
  obtain ⟨rfl, rfl⟩ := hab
  obtain ⟨hs, hx⟩ := eq_of_cutFirst hcut
  refine ⟨?_, by simpa using hx⟩
  rw [← List.reverse_reverse s, hs]
  simp

lemma cutLast_eq_none {x : α} {s : List α} : cutLast x s = none ↔ x ∉ s := by
  rw [cutLast, Option.map_eq_none_iff, cutFirst_eq_none, List.mem_reverse]

lemma cutLast_append {x : α} {b : List α} (h : x ∉ b) (a : List α) :
    cutLast x (a ++ x :: b) = some (a, b) := by
  have hrev : (a ++ x :: b).reverse = b.reverse ++ x :: a.reverse := by simp
  rw [cutLast, hrev, cutFirst_append (by simpa using h), Option.map_some, List.reverse_reverse,
    List.reverse_reverse]

lemma cutRunFrom_eq_none_iff {w s : List α} (passed : List α) :
    cutRunFrom w passed s = none ↔ ¬ w <:+: s := by
  induction s generalizing passed with
  | nil => simp [cutRunFrom, List.isEmpty_iff]
  | cons y s ih =>
    rw [cutRunFrom, List.infix_cons_iff]
    split
    · rename_i hw
      simp [List.isPrefixOf_iff_prefix.1 hw]
    · rename_i hw
      rw [List.isPrefixOf_iff_prefix] at hw
      simp [ih, hw]

/-- There is no cut at a run exactly if it does not occur. -/
lemma cutRun_eq_none_iff {w s : List α} : cutRun w s = none ↔ ¬ w <:+: s :=
  cutRunFrom_eq_none_iff []

/-- A run of two items is found where it stands, unless it could begin one item earlier. -/
lemma cutRunFrom_pair {x y : α} {passed a : List α} (h : cutRunFrom [x, y] passed a = none)
    (hl : x = y → a.getLast? ≠ some x) (b : List α) :
    cutRunFrom [x, y] passed (a ++ x :: y :: b) = some (passed.reverse ++ a, b) := by
  induction a generalizing passed with
  | nil => simp [cutRunFrom]
  | cons c a ih =>
    rw [cutRunFrom] at h
    split at h
    · simp at h
    · rename_i hc
      have hc' : ¬ [x, y].isPrefixOf (c :: (a ++ x :: y :: b)) = true := by
        cases a with
        | nil =>
          simp only [List.getLast?_singleton, ne_eq, Option.some.injEq] at hl
          simp only [List.nil_append, List.isPrefixOf_cons_cons, Bool.and_eq_true, beq_iff_eq]
          rintro ⟨rfl, rfl, -⟩
          exact hl rfl rfl
        | cons d a => simpa using hc
      rw [List.cons_append, cutRunFrom, if_neg hc', ih h]
      · simp
      · intro hxy hlast
        refine hl hxy ?_
        cases a with
        | nil => simp at hlast
        | cons d a => simpa [List.getLast?_cons_cons] using hlast

lemma cutRun_pair {x y : α} {a : List α} (h : cutRun [x, y] a = none)
    (hl : x = y → a.getLast? ≠ some x) (b : List α) :
    cutRun [x, y] (a ++ x :: y :: b) = some (a, b) := cutRunFrom_pair h hl b

/-- A run of two equal items does not occur where no two neighbours are equal to the item. -/
lemma cutRunFrom_eq_none_of_isChain {x : α} {s : List α}
    (h : s.IsChain fun y z => y = x → z ≠ x) (passed : List α) :
    cutRunFrom [x, x] passed s = none := by
  induction s generalizing passed with
  | nil => simp [cutRunFrom]
  | cons y s ih =>
    obtain ⟨hy, hs⟩ := List.isChain_cons.1 h
    have hp : ¬ [x, x].isPrefixOf (y :: s) = true := by
      cases s with
      | nil => simp
      | cons z s =>
        simp only [List.isPrefixOf_cons_cons, Bool.and_eq_true, beq_iff_eq]
        rintro ⟨hxy, hxz, -⟩
        exact hy z rfl hxy.symm hxz.symm
    rw [cutRunFrom, if_neg hp]
    exact ih hs (y :: passed)

/-! ## Around an item -/

section Around

variable {β : Type} {x : β} {a b s u : List β}

/-- An item that is not in the front of a list is behind it. -/
lemma exists_of_append_eq_left (hu : x ∉ u) (h : u ++ s = a ++ x :: b) :
    ∃ a', a = u ++ a' ∧ s = a' ++ x :: b := by
  rcases List.append_eq_append_iff.1 h with ⟨a', ha, hs⟩ | ⟨w, hw, hrest⟩
  · exact ⟨a', ha, hs⟩
  · cases w with
    | nil => exact ⟨[], by simpa using hw.symm, hrest.symm⟩
    | cons y w =>
      obtain ⟨rfl, -⟩ := List.cons.inj hrest
      exact absurd (by rw [hw]; simp) hu

/-- An item that is not in the back of a list is before it. -/
lemma exists_of_append_eq_right (hu : x ∉ u) (h : s ++ u = a ++ x :: b) :
    ∃ b', b = b' ++ u ∧ s = a ++ x :: b' := by
  have hrev : u.reverse ++ s.reverse = b.reverse ++ x :: a.reverse := by
    simpa using congrArg List.reverse h
  obtain ⟨b', hb, hs⟩ := exists_of_append_eq_left (by simpa using hu) hrev
  refine ⟨b'.reverse, ?_, ?_⟩
  · rw [← List.reverse_reverse b, hb, List.reverse_append, List.reverse_reverse]
  · rw [← List.reverse_reverse s, hs]
    simp

/-- Two items that follow each other do so behind what does not have the first one. -/
lemma pair_infix_append_left {y : β} (hu : x ∉ u) : [x, y] <:+: u ++ s ↔ [x, y] <:+: s := by
  constructor
  · rintro ⟨a, b, h⟩
    obtain ⟨a', -, hs⟩ := exists_of_append_eq_left (b := y :: b) hu (by simpa using h.symm)
    exact ⟨a', b, by simpa using hs.symm⟩
  · intro h
    exact h.trans (List.suffix_append u s).isInfix

/-- Two items that follow each other do so before what does not have the second one. -/
lemma pair_infix_append_right {y : β} (hu : y ∉ u) : [x, y] <:+: s ++ u ↔ [x, y] <:+: s := by
  constructor
  · rintro ⟨a, b, h⟩
    obtain ⟨b', -, hs⟩ := exists_of_append_eq_right (a := a ++ [x]) hu (by simpa using h.symm)
    exact ⟨a, b', by simpa using hs.symm⟩
  · intro h
    exact h.trans (List.prefix_append s u).isInfix

end Around

/-! ## Splitting -/

section Split

variable {β : Type} {p : β → Bool}

lemma splitWhere_cons {s w : List β} {ws : List (List β)} (h : splitWhere p s = w :: ws) (c : β) :
    splitWhere p (c :: s) = if p c then [] :: w :: ws else (c :: w) :: ws := by
  rw [splitWhere] at h ⊢
  rw [List.foldr_cons, h]

lemma splitWhere_of_forall {s : List β} (hs : ∀ c ∈ s, p c = false) : splitWhere p s = [s] := by
  induction s with
  | nil => rfl
  | cons c s ih =>
    obtain ⟨hc, hs⟩ := List.forall_mem_cons.1 hs
    simp [splitWhere_cons (ih hs), hc]

lemma splitWhere_append_cons {s : List β} {c : β} (hs : ∀ d ∈ s, p d = false) (hc : p c = true)
    (t : List β) : splitWhere p (s ++ c :: t) = s :: splitWhere p t := by
  induction s with
  | nil =>
    cases ht : splitWhere p t with
    | nil => exact absurd ht (splitWhere_ne_nil p t)
    | cons w ws => simp [splitWhere_cons ht, hc]
  | cons d s ih =>
    obtain ⟨hd, hs⟩ := List.forall_mem_cons.1 hs
    simp [splitWhere_cons (ih hs), hd]

/-- Every item is a separator or in one of the parts. -/
lemma exists_mem_splitWhere {s : List β} {c : β} (hc : c ∈ s) :
    p c = true ∨ ∃ w ∈ splitWhere p s, c ∈ w := by
  induction s with
  | nil => simp at hc
  | cons d s ih =>
    cases hs : splitWhere p s with
    | nil => exact absurd hs (splitWhere_ne_nil p s)
    | cons w ws =>
      rw [splitWhere_cons hs]
      rw [hs] at ih
      rcases List.mem_cons.1 hc with rfl | hc
      · by_cases hd : p c = true
        · exact .inl hd
        · exact .inr ⟨c :: w, by simp [hd], List.mem_cons_self⟩
      · rcases ih hc with hp | ⟨v, hv, hcv⟩
        · exact .inl hp
        · right
          by_cases hd : p d = true
          · exact ⟨v, by rw [if_pos hd]; exact List.mem_cons_of_mem _ hv, hcv⟩
          · rcases List.mem_cons.1 hv with rfl | hv
            · exact ⟨d :: v, by simp [hd], List.mem_cons_of_mem d hcv⟩
            · exact ⟨v, by simp [hd, hv], hcv⟩

/-- The first part of a list is in front of it, and the others stand in it. -/
lemma prefix_of_splitWhere {s w : List β} {ws : List (List β)} (h : splitWhere p s = w :: ws) :
    w <+: s ∧ ∀ v ∈ ws, v <:+: s := by
  induction s generalizing w ws with
  | nil =>
    obtain ⟨rfl, rfl⟩ : [] = w ∧ [] = ws := by simpa [splitWhere] using h
    simp
  | cons d s ih =>
    cases hs : splitWhere p s with
    | nil => exact absurd hs (splitWhere_ne_nil p s)
    | cons v vs =>
      obtain ⟨hv, hvs⟩ := ih hs
      rw [splitWhere_cons hs] at h
      split at h
      · obtain ⟨rfl, rfl⟩ := List.cons.inj h
        exact ⟨List.nil_prefix, List.forall_mem_cons.2
          ⟨List.infix_cons hv.isInfix, fun u hu => List.infix_cons (hvs u hu)⟩⟩
      · obtain ⟨rfl, rfl⟩ := List.cons.inj h
        exact ⟨List.cons_prefix_cons.2 ⟨rfl, hv⟩, fun u hu => List.infix_cons (hvs u hu)⟩

/-- The parts of a list stand in it. -/
lemma infix_of_mem_splitWhere {s w : List β} (hw : w ∈ splitWhere p s) : w <:+: s := by
  cases hs : splitWhere p s with
  | nil => exact absurd hs (splitWhere_ne_nil p s)
  | cons v vs =>
    obtain ⟨hv, hvs⟩ := prefix_of_splitWhere hs
    rw [hs] at hw
    rcases List.mem_cons.1 hw with rfl | hw
    · exact hv.isInfix
    · exact hvs w hw

/-- The parts of a list have no other items than the list. -/
lemma mem_of_mem_splitWhere {s w : List β} (hw : w ∈ splitWhere p s)
    {c : β} (hc : c ∈ w) : c ∈ s :=
  (infix_of_mem_splitWhere hw).subset hc

/-- No item of a part is a separator. -/
lemma not_of_mem_splitWhere {s w : List β} (hw : w ∈ splitWhere p s) {c : β} (hc : c ∈ w) :
    p c = false := by
  induction s generalizing w with
  | nil =>
    obtain rfl : w = [] := by simpa [splitWhere] using hw
    cases hc
  | cons d s ih =>
    cases hs : splitWhere p s with
    | nil => exact absurd hs (splitWhere_ne_nil p s)
    | cons v vs =>
      rw [hs] at ih
      rw [splitWhere_cons hs] at hw
      by_cases hd : p d = true
      · rw [if_pos hd] at hw
        rcases List.mem_cons.1 hw with rfl | hw
        · cases hc
        · exact ih hw hc
      · rw [if_neg hd] at hw
        rcases List.mem_cons.1 hw with rfl | hw
        · rcases List.mem_cons.1 hc with rfl | hc
          · simpa using hd
          · exact ih List.mem_cons_self hc
        · exact ih (List.mem_cons_of_mem v hw) hc

/-- Parts with separators between them are found again. -/
lemma splitWhere_intercalate {c : β} (hc : p c = true) {ws : List (List β)} (hne : ws ≠ [])
    (hws : ∀ w ∈ ws, ∀ d ∈ w, p d = false) : splitWhere p (List.intercalate [c] ws) = ws := by
  induction ws with
  | nil => exact absurd rfl hne
  | cons w ws ih =>
    obtain ⟨hw, hws⟩ := List.forall_mem_cons.1 hws
    cases ws with
    | nil => simpa using splitWhere_of_forall hw
    | cons v ws =>
      rw [List.intercalate_cons_cons, List.append_assoc, List.singleton_append,
        splitWhere_append_cons hw hc, ih (by simp) hws]

end Split

/-! ## Reading item by item -/

/-- What is read of a list is read of its items. -/
lemma exists_of_mem_mapM {α β : Type} {g : α → Option β} {l : List α} {bs : List β}
    (h : l.mapM g = some bs) {b : β} (hb : b ∈ bs) : ∃ a ∈ l, g a = some b := by
  induction l generalizing bs with
  | nil =>
    obtain rfl : bs = [] := by simpa [eq_comm] using h
    simp at hb
  | cons a l ih =>
    simp only [List.mapM_cons, Option.bind_eq_bind, Option.bind_eq_some_iff, Option.pure_def,
      Option.some.injEq] at h
    obtain ⟨c, hc, cs, hcs, rfl⟩ := h
    rcases List.mem_cons.1 hb with rfl | hb
    · exact ⟨a, List.mem_cons_self, hc⟩
    · obtain ⟨a', ha', hb'⟩ := ih hcs hb
      exact ⟨a', List.mem_cons_of_mem a ha', hb'⟩

end UpnpGateway.Text
