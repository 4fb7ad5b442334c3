/-
# The case of letters in the names of tags

A document may be written again with the case of letters changed in the names of its tags.
It is cut into the same events then, up to the case of letters in names.
-/
import Mathlib.Data.List.Infix
import UpnpGateway.Proofs.Text.Blank
import UpnpGateway.Proofs.Text.Letter
import UpnpGateway.Proofs.Xml.Renaming
import UpnpGateway.Proofs.Xml.Scanning

namespace UpnpGateway.Xml

open UpnpGateway.Text

/-- The second text is the first one with the case of letters changed in the names of some of
its tags. -/
inductive Recased : List Char → List Char → Prop where
  /-- What is left alone. -/
  | same (s : List Char) : Recased s s
  /-- A piece of the text that is left alone. -/
  | kept {w s s' : List Char} {e : Event} (read : next (w ++ s) = .event e s)
    (rest : Recased s s') : Recased (w ++ s) (w ++ s')
  /-- A tag that opens an element: the name begins with `n`. -/
  | opening {n n' a s s' : List Char} (letters : lower n = lower n')
    (name : ∀ c ∈ n, isMarkupBlank c = false)
    (read : next ('<' :: (n ++ a ++ '>' :: s)) = .event (.ofTag (n ++ a)) s)
    (rest : Recased s s') : Recased ('<' :: (n ++ a ++ '>' :: s)) ('<' :: (n' ++ a ++ '>' :: s'))
  /-- An end tag. -/
  | closing {n n' s s' : List Char} (letters : lower n = lower n') (angle : '>' ∉ n)
    (rest : Recased s s') :
    Recased ('<' :: '/' :: (n ++ '>' :: s)) ('<' :: '/' :: (n' ++ '>' :: s'))

/-! ## The ends of tags -/

lemma cutMarkup_congr {σ : Type} {step : σ → Char → σ} {closes : σ → Bool} {I : σ → Prop}
    (hI : ∀ q c, I q → I (step q c))
    (hstep : ∀ q c c', I q → c.toLower = c'.toLower → step q c = step q c')
    {q : σ} (hq : I q) {passed passed' body body' t : List Char} (h : lower body = lower body')
    (hcut : cutMarkup step closes q passed (body ++ '>' :: t) = some (passed.reverse ++ body, t))
    (t' : List Char) :
    cutMarkup step closes q passed' (body' ++ '>' :: t') = some (passed'.reverse ++ body', t') := by
  induction body generalizing q passed passed' body' with
  | nil =>
    have hnil : body' = [] := by simpa [lower, eq_comm] using h
    subst hnil
    rw [List.nil_append, cutMarkup] at hcut ⊢
    by_cases hc : ('>' == '>' && closes q) = true
    · rw [if_pos hc, List.append_nil]
    · rw [if_neg hc] at hcut
      obtain ⟨u, hu, -, -⟩ := exists_of_cutMarkup hcut
      simpa using congrArg List.length hu
  | cons c body ih =>
    obtain ⟨c', s', rfl, hcc, hs⟩ := exists_of_lower_cons h
    rw [List.cons_append, cutMarkup] at hcut ⊢
    have hgt : (c == '>') = (c' == '>') := by
      rw [Bool.eq_iff_iff, beq_iff_eq, beq_iff_eq, eq_iff_of_toLower_eq hcc rfl]
    by_cases hc : (c == '>' && closes q) = true
    · rw [if_pos hc] at hcut
      simpa using congrArg (fun p => p.map fun r => r.1.length) hcut
    · rw [if_neg hc] at hcut
      rw [← hgt, if_neg hc, ← hstep q c c' hq hcc]
      have hcut' : cutMarkup step closes (step q c) (c :: passed) (body ++ '>' :: t) =
          some ((c :: passed).reverse ++ body, t) := by simpa using hcut
      rw [show passed'.reverse ++ c' :: s' = (c' :: passed').reverse ++ s' by simp]
      exact ih (hI q c hq) hs hcut'

/-- A quote that is open is one of the two kinds, and neither is a letter. -/
lemma isAlpha_of_quoteStep {q : Option Char} {c : Char} (hq : ∀ d, q = some d → d.isAlpha = false)
    {d : Char} (h : quoteStep q c = some d) : d.isAlpha = false := by
  cases q with
  | some k =>
    rw [quoteStep] at h
    split at h
    · simp at h
    · exact hq d h
  | none =>
    rw [quoteStep] at h
    split at h
    · rename_i hc
      cases h
      rcases Bool.or_eq_true_iff.1 hc with hc | hc
      · rw [beq_iff_eq.1 hc]
        rfl
      · rw [beq_iff_eq.1 hc]
        rfl
    · simp at h

lemma quoteStep_congr {q : Option Char} {c c' : Char} (hq : ∀ d, q = some d → d.isAlpha = false)
    (hcc : c.toLower = c'.toLower) : quoteStep q c = quoteStep q c' := by
  have hquote : ∀ d : Char, d.isAlpha = false → (c == d) = (c' == d) := by
    intro d hd
    rw [Bool.eq_iff_iff, beq_iff_eq, beq_iff_eq, eq_iff_of_toLower_eq hcc hd]
  cases q with
  | some k => rw [quoteStep, quoteStep, hquote k (hq k rfl)]
  | none =>
    rw [quoteStep, quoteStep, hquote '"' rfl, hquote '\'' rfl]
    split
    · rename_i hc
      rcases Bool.or_eq_true_iff.1 hc with hc | hc
      · rw [beq_iff_eq.1 hc, (eq_iff_of_toLower_eq hcc rfl).2 (beq_iff_eq.1 hc)]
      · rw [beq_iff_eq.1 hc, (eq_iff_of_toLower_eq hcc rfl).2 (beq_iff_eq.1 hc)]
    · rfl

/-- A tag ends at the same place whatever the case of its letters. -/
lemma cutTag_congr {body body' t : List Char} (h : lower body = lower body')
    (hcut : cutTag (body ++ '>' :: t) = some (body, t)) (t' : List Char) :
    cutTag (body' ++ '>' :: t') = some (body', t') :=
  cutMarkup_congr (I := fun q => ∀ d, q = some d → d.isAlpha = false)
    (fun _ _ hq _ => isAlpha_of_quoteStep hq) (fun _ _ _ => quoteStep_congr) (by simp) h hcut t'

/-! ## Names -/

lemma ofList_append {n : List Char} (hn : ∀ c ∈ n, isMarkupBlank c = false) (a : List Char) :
    Tag.ofList (n ++ a) = ⟨n ++ (Tag.ofList a).name, (Tag.ofList a).attributes⟩ := by
  have hp : ∀ c ∈ n, (!isMarkupBlank c) = true := fun c hc => by rw [hn c hc, Bool.not_false]
  rw [Tag.ofList, List.takeWhile_append_of_pos hp, List.dropWhile_append_of_pos hp]
  rfl

lemma not_isMarkupBlank_congr {n n' : List Char} (h : lower n = lower n')
    (hn : ∀ c ∈ n, isMarkupBlank c = false) : ∀ c ∈ n', isMarkupBlank c = false := by
  induction n generalizing n' with
  | nil =>
    have hnil : n' = [] := by simpa [lower, eq_comm] using h
    simp [hnil]
  | cons c n ih =>
    obtain ⟨c', s', rfl, hc, hs⟩ := exists_of_lower_cons h
    rw [List.forall_mem_cons] at hn ⊢
    exact ⟨(isMarkupBlank_congr hc).symm.trans hn.1, ih hs hn.2⟩

lemma rename_ofList {n n' : List Char} (h : lower n = lower n')
    (hn : ∀ c ∈ n, isMarkupBlank c = false) (a : List Char) :
    (Tag.ofList (n ++ a)).rename lower = (Tag.ofList (n' ++ a)).rename lower := by
  rw [ofList_append hn, ofList_append (not_isMarkupBlank_congr h hn), Tag.rename, Tag.rename,
    lower_append, lower_append, h]

lemma endsInSlash_congr {s s' : List Char} (h : lower s = lower s') :
    (s.getLast? == some '/') = (s'.getLast? == some '/') := by
  have hlast : ∀ t : List Char, (t.getLast? == some '/') = ((lower t).getLast? == some '/') := by
    intro t
    rw [Bool.eq_iff_iff, beq_iff_eq, beq_iff_eq, lower, List.getLast?_map]
    cases t.getLast? with
    | none => rfl
    | some c => rw [Option.map_some, Option.some_inj, Option.some_inj, toLower_eq_iff rfl]
  rw [hlast s, hlast s', h]

/-- Up to the case of letters, the event of a tag does not depend on the case of letters in its
name. -/
lemma rename_ofTag {n n' : List Char} (h : lower n = lower n')
    (hn : ∀ c ∈ n, isMarkupBlank c = false) (a : List Char) :
    (Event.ofTag (n ++ a)).rename lower = (Event.ofTag (n' ++ a)).rename lower := by
  have hna : lower (n ++ a) = lower (n' ++ a) := by rw [lower_append, lower_append, h]
  rw [Event.ofTag, Event.ofTag, endsInSlash_congr hna]
  split
  · have hdrop : (Tag.ofList (n ++ a).dropLast).rename lower =
        (Tag.ofList (n' ++ a).dropLast).rename lower := by
      rcases List.eq_nil_or_concat a with rfl | ⟨b, d, rfl⟩
      · have hlast : lower n.dropLast = lower n'.dropLast := by
          rw [lower, lower, List.map_dropLast, List.map_dropLast, ← lower, ← lower, h]
        simpa using rename_ofList hlast (fun c hc => hn c (List.mem_of_mem_dropLast hc)) []
      · rw [List.concat_eq_append, ← List.append_assoc, ← List.append_assoc,
          List.dropLast_concat, List.dropLast_concat]
        exact rename_ofList h hn b
    simp only [Event.rename, hdrop]
  · simp only [Event.rename, rename_ofList h hn a]

lemma lower_dropEndWhile (s : List Char) :
    lower (dropEndWhile isMarkupBlank s) = dropEndWhile isMarkupBlank (lower s) := by
  rw [dropEndWhile, dropEndWhile, lower, lower, ← List.map_reverse, List.dropWhile_map,
    List.map_reverse]
  congr 3
  funext c
  exact (isMarkupBlank_toLower c).symm

lemma lower_closingName (s : List Char) : lower (closingName s) = closingName (lower s) := by
  rw [closingName, closingName, ← lower_dropEndWhile]
  simp only [lower, List.isEmpty_map]
  split <;> rfl

/-! ## Reading -/

lemma opensElement_congr {body body' : List Char} (h : lower body = lower body')
    (ho : OpensElement body) : OpensElement body' := by
  intro c' hc'
  cases body with
  | nil =>
    have hnil : body' = [] := by simpa [lower, eq_comm] using h
    simp [hnil] at hc'
  | cons c body =>
    obtain ⟨d, s', rfl, hcc, -⟩ := exists_of_lower_cons h
    cases hc'
    obtain ⟨h1, h2, h3⟩ := ho c rfl
    exact ⟨fun hc => h1 ((eq_iff_of_toLower_eq hcc rfl).2 hc),
      fun hc => h2 ((eq_iff_of_toLower_eq hcc rfl).2 hc),
      fun hc => h3 ((eq_iff_of_toLower_eq hcc rfl).2 hc)⟩

/-- A tag is read as such whatever the case of the letters in its name. -/
lemma next_opening {n n' a s : List Char} (h : lower n = lower n')
    (hread : next ('<' :: (n ++ a ++ '>' :: s)) = .event (.ofTag (n ++ a)) s) (t : List Char) :
    next ('<' :: (n' ++ a ++ '>' :: t)) = .event (.ofTag (n' ++ a)) t := by
  have hna : lower (n ++ a) = lower (n' ++ a) := by rw [lower_append, lower_append, h]
  rcases nextCase hread with ⟨body, hs, -, ho, hcut⟩ | ⟨_, -, he, -⟩ | ⟨_, -, he, -, -, -⟩
  · have hbody : n ++ a = body := List.append_cancel_right (List.cons.inj hs).2
    rw [← hbody] at ho hcut
    exact next_of_cutTag (opensElement_congr hna ho) (cutTag_congr hna (hcut s) t)
  · have htag := he.1
    rw [Event.ofTag] at htag
    split at htag <;> simp [Event.tag?] at htag
  · have htext := isText_ofTag (n ++ a)
    simp [he, Event.isText] at htext

namespace Recased

variable {s s' : List Char}

lemma head?_eq (h : Recased s s') : s.head? = s'.head? := by
  cases h with
  | same => rfl
  | @kept w r r' e read rest =>
    cases w with
    | nil => exact absurd (length_of_next read) (Nat.lt_irrefl _)
    | cons c w => rfl
  | opening => rfl
  | closing => rfl

lemma follows (h : Recased s s') : Follows s s' where
  eq_nil hnil := by
    have hhead := h.head?_eq
    rw [hnil] at hhead
    exact List.head?_eq_none_iff.1 hhead.symm
  head_lt hlt := h.head?_eq.symm.trans hlt

/-- The events are the same up to the case of letters in names. -/
lemma scan_eq (h : Recased s s') :
    (scan s).1.map (Event.rename lower) = (scan s').1.map (Event.rename lower) ∧
      (scan s).2 = (scan s').2 := by
  induction h with
  | same s => exact ⟨rfl, rfl⟩
  | kept read rest ih =>
    rw [scan_of_event read, scan_of_event (next_append read rest.follows)]
    simpa using ih
  | @opening n n' a s s' letters name read rest ih =>
    rw [scan_of_event read, scan_of_event (next_opening letters read s')]
    simpa [rename_ofTag letters name a] using ih
  | @closing n n' s s' letters angle rest ih =>
    have hclosing : (Event.closing (closingName n)).rename lower =
        (Event.closing (closingName n')).rename lower := by
      rw [Event.rename, Event.rename, lower_closingName, lower_closingName, letters]
    have hangle : '>' ∉ n' := fun hn' => angle ((mem_iff_of_lower_eq letters rfl).2 hn')
    rw [scan_of_event (next_closing angle s), scan_of_event (next_closing hangle s')]
    simpa [hclosing] using ih

lemma of_opening {n n' : List Char} (hn : IsName n) (letters : lower n = lower n')
    (h : Recased s s') : Recased ('<' :: (n ++ '>' :: s)) ('<' :: (n' ++ '>' :: s')) := by
  have hread : next ('<' :: (n ++ [] ++ '>' :: s)) = .event (.ofTag (n ++ [])) s := by
    rw [List.append_nil]
    exact hn.next s
  simpa using opening letters (fun c hc => hn.not_isMarkupBlank hc) hread h

lemma of_closing {n n' : List Char} (hn : IsName n) (letters : lower n = lower n')
    (h : Recased s s') :
    Recased ('<' :: '/' :: (n ++ '>' :: s)) ('<' :: '/' :: (n' ++ '>' :: s')) :=
  .closing letters (hn.notMem rfl) h

/-! ### The byte order mark -/

/-- A run of text at the beginning is left alone. -/
lemma exists_of_text {w r : List Char} (hw : '<' ∉ w) (hr : ∀ c, r.head? = some c → c = '<')
    (h : Recased (w ++ r) s') : ∃ r', s' = w ++ r' ∧ Recased r r' := by
  by_cases hne : w = []
  · exact ⟨s', by simp [hne], by simpa [hne] using h⟩
  · have hread := next_text hne hw hr
    generalize hs : w ++ r = s at h hread
    cases h with
    | same => exact ⟨r, hs.symm, .same r⟩
    | @kept w' t t' e read rest =>
      rw [hread] at read
      cases read
      exact ⟨t', by rw [List.append_cancel_right hs], rest⟩
    | opening =>
      cases w with
      | nil => exact absurd rfl hne
      | cons c w => exact absurd (List.mem_cons.2 (.inl (List.cons.inj hs).1.symm)) hw
    | closing =>
      cases w with
      | nil => exact absurd rfl hne
      | cons c w => exact absurd (List.mem_cons.2 (.inl (List.cons.inj hs).1.symm)) hw

/-- Every text begins with a run that is no markup, which may be empty. -/
lemma exists_text_append (s : List Char) :
    ∃ w r, s = w ++ r ∧ '<' ∉ w ∧ ∀ c, r.head? = some c → c = '<' := by
  obtain ⟨w, r, hs, hw, hr⟩ := exists_span (· != '<') s
  exact ⟨w, r, hs, fun hmem => by simpa using hw _ hmem, fun c hc => by simpa using hr c hc⟩

lemma of_text {w r r' : List Char} (hw : '<' ∉ w) (hr : ∀ c, r.head? = some c → c = '<')
    (h : Recased r r') : Recased (w ++ r) (w ++ r') := by
  by_cases hne : w = []
  · simpa [hne] using h
  · exact .kept (next_text hne hw hr) h

lemma of_unmarked (h : Recased s s') : Recased ('﻿' :: s) ('﻿' :: s') := by
  obtain ⟨w, r, rfl, hw, hr⟩ := exists_text_append s
  obtain ⟨r', rfl, hrr⟩ := exists_of_text hw hr h
  exact of_text (w := '﻿' :: w) (by simpa using hw) hr hrr

lemma unmarked (h : Recased s s') : Recased (unmarked s) (unmarked s') := by
  by_cases hmark : s.head? = some '﻿'
  · obtain ⟨t, rfl⟩ := List.head?_eq_some_iff.1 hmark
    obtain ⟨w, r, rfl, hw, hr⟩ := exists_text_append t
    have hw' : '<' ∉ '﻿' :: w := by simpa using hw
    obtain ⟨r', rfl, hrr⟩ := exists_of_text hw' hr h
    exact of_text hw hr hrr
  · rwa [unmarked_eq_self hmark, unmarked_eq_self (h.head?_eq ▸ hmark)]

end Recased

/-! ## All names in upper case -/

lemma name_ofList {a : List Char} (ha : ∀ c, a.head? = some c → isMarkupBlank c = true) :
    (Tag.ofList a).name = [] := by
  cases a with
  | nil => rfl
  | cons c a => simp [Tag.ofList, ha c rfl]

/-- The name of a tag has no characters but those of the name that is written. -/
lemma mem_of_mem_name {n a : List Char} {tag : Tag} (hn : ∀ c ∈ n, isMarkupBlank c = false)
    (ha : ∀ c, a.head? = some c → isMarkupBlank c = true)
    (htag : (Event.ofTag (n ++ a)).tag? = some tag) {c : Char} (hc : c ∈ tag.name) : c ∈ n := by
  rw [Event.ofTag] at htag
  split at htag
  · cases htag
    rcases List.eq_nil_or_concat a with rfl | ⟨b, d, rfl⟩
    · rw [List.append_nil] at hc
      exact List.mem_of_mem_dropLast ((List.takeWhile_subset _) hc)
    · rw [List.concat_eq_append, ← List.append_assoc, List.dropLast_concat, ofList_append hn,
        name_ofList, List.append_nil] at hc
      · exact hc
      · intro c hb
        exact ha c (by rw [List.concat_eq_append, List.head?_append, hb, Option.some_or])
  · cases htag
    rwa [ofList_append hn, name_ofList ha, List.append_nil] at hc

/-- A name without small letters. -/
def InCapitals (name : List Char) : Prop := ∀ c ∈ name, c.isLower = false

lemma inCapitals_upper (n : List Char) : InCapitals (upper n) := by
  intro c hc
  obtain ⟨d, -, rfl⟩ := List.mem_map.1 hc
  exact isLower_toUpper d

/-- Every text can be written with the names of its tags in upper case. -/
lemma exists_recased_upper (s : List Char) :
    ∃ s', Recased s s' ∧ ∀ e ∈ (scan s').1, ∀ tag, e.tag? = some tag →
      InCapitals tag.name := by
  induction hm : s.length using Nat.strongRecOn generalizing s with
  | _ m ih =>
    cases h : next s with
    | finished => exact ⟨s, .same s, by simp [scan_of_finished h]⟩
    | malformed => exact ⟨s, .same s, by simp [scan_of_malformed h]⟩
    | event e rest =>
      obtain ⟨r', hr, hall⟩ := ih _ (hm ▸ length_of_next h) rest rfl
      have hkept : ∀ w, s = w ++ rest → e.tag? = none → ∃ s', Recased s s' ∧
          ∀ e ∈ (scan s').1, ∀ tag, e.tag? = some tag → InCapitals tag.name := by
        rintro w rfl hnone
        refine ⟨w ++ r', .kept h hr, ?_⟩
        rw [scan_of_event (next_append h hr.follows), List.forall_mem_cons]
        exact ⟨fun tag htag => by simp [hnone] at htag, hall⟩
      rcases nextCase h with ⟨body, hs, he, -, -⟩ | ⟨w, hs, he, -⟩ | ⟨raw, hs, he, -, -, -⟩
      · obtain ⟨n, a, hna, hn, ha⟩ := exists_span (fun c => !isMarkupBlank c) body
        simp only [Bool.not_eq_true', Bool.not_eq_false'] at hn ha
        subst hs he hna
        have hletters : lower n = lower (upper n) := (lower_upper n).symm
        refine ⟨_, .opening hletters hn h hr, ?_⟩
        rw [scan_of_event (next_opening hletters h r'), List.forall_mem_cons]
        refine ⟨fun tag htag c hc => ?_, hall⟩
        exact inCapitals_upper n c
          (mem_of_mem_name (not_isMarkupBlank_congr hletters hn) ha htag hc)
      · exact hkept ('<' :: w) hs he.1
      · exact hkept raw hs (by rw [he]; rfl)

/-- Every document can be written with the names of its tags in upper case. -/
lemma exists_recased_document (d : String) :
    ∃ d' : String, Recased d.toList d'.toList ∧ ∀ e ∈ (events d').1, ∀ tag, e.tag? = some tag →
      InCapitals tag.name := by
  by_cases hmark : d.toList.head? = some '\uFEFF'
  · obtain ⟨t, ht⟩ := List.head?_eq_some_iff.1 hmark
    obtain ⟨t', hr, hall⟩ := exists_recased_upper t
    refine ⟨String.ofList ('\uFEFF' :: t'), ?_, ?_⟩
    · rw [ht, String.toList_ofList]
      exact hr.of_unmarked
    · rw [events_eq, String.toList_ofList]
      exact hall
  · obtain ⟨t', hr, hall⟩ := exists_recased_upper d.toList
    refine ⟨String.ofList t', ?_, ?_⟩
    · rwa [String.toList_ofList]
    · rw [events_eq, String.toList_ofList, unmarked_eq_self (hr.head?_eq ▸ hmark)]
      exact hall

/-! ## Comparing names -/

lemma cutFirst_lower (s : List Char) :
    cutFirst ':' (lower s) = (cutFirst ':' s).map fun p => (lower p.1, lower p.2) := by
  have hp : ((· != ':') ∘ Char.toLower) = (· != ':') := by
    funext c
    rw [Function.comp_apply, Bool.eq_iff_iff, bne_iff_ne, bne_iff_ne, ne_eq, ne_eq,
      toLower_eq_iff rfl]
  rw [cutFirst, cutFirst, lower, List.dropWhile_map, List.takeWhile_map, hp]
  cases s.dropWhile (· != ':') <;> rfl

lemma localPart_lower (s : String) :
    (localPart (String.ofList (lower s.toList))).toList = lower (localPart s).toList := by
  rw [localPart, localPart, String.toList_ofList, cutLast, cutLast, lower, ← List.map_reverse,
    ← lower, cutFirst_lower]
  cases cutFirst ':' s.toList.reverse with
  | none => simp [lower]
  | some p => simp [lower]

/-- The rule that ignores the case of letters does not notice it in names. -/
lemma ignores_lower : TagRule.ignoreCase.Ignores lower := by
  intro qualified wanted
  rw [TagRule.matches, TagRule.matches, localPart_lower, sameLetters, lower_lower, sameLetters]

/-- The tree of a document is the same up to the case of letters in names. -/
lemma parse_recased {d d' : String} (h : Recased d.toList d'.toList) :
    (parse d).map (Element.rename lower) = (parse d').map (Element.rename lower) := by
  obtain ⟨hes, hcomplete⟩ := h.unmarked.scan_eq
  rw [← events_eq, ← events_eq] at hes hcomplete
  exact parse_rename lower hes hcomplete

/-- Whether the root element of a document is the wanted one does not depend on the case of
letters in names. -/
lemma rootName_recased {d d' : String} (h : Recased d.toList d'.toList) (wanted : String) :
    (rootName d).toOption.any (TagRule.ignoreCase.matches · wanted) =
      (rootName d').toOption.any (TagRule.ignoreCase.matches · wanted) := by
  obtain ⟨hes, hcomplete⟩ := h.unmarked.scan_eq
  rw [← events_eq, ← events_eq] at hes hcomplete
  have hnames := rootName_rename lower hes hcomplete
  rcases cases_of_map_eq hnames with ⟨cause, hd, hd'⟩ | ⟨name, name', hd, hd', hlower⟩
  · rw [hd, hd']
  · have hmatch := ignores_lower name wanted
    rw [hlower, ignores_lower name' wanted] at hmatch
    simp [hd, hd', Except.toOption, hmatch]

end UpnpGateway.Xml
