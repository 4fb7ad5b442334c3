/-
# Texts with a broken entity

An ampersand begins an entity if what stands up to the next semicolon is the name or the number of
a character.  A text in which some ampersand begins none is not read back at all: it stands for
itself, with the entities in it as they are written.
-/
import UpnpGateway.Proofs.Text.Cut
import UpnpGateway.Proofs.Text.Numeral
import UpnpGateway.Proofs.Xml.Escaping

namespace UpnpGateway.Xml

open UpnpGateway.Text

/-- What stands behind an ampersand goes on as an entity. -/
def GoesOnAsEntity (s : List Char) : Prop :=
  ∃ name rest, s = name ++ ';' :: rest ∧ ';' ∉ name ∧ (entity? name).isSome = true

/-- Some ampersand of a text begins no entity. -/
def HasBrokenEntity (s : List Char) : Prop := ∃ a b, s = a ++ '&' :: b ∧ ¬ GoesOnAsEntity b

/-- The name or the number of a character has no ampersand in it. -/
lemma notMem_of_entity? {name : List Char} {c : Char} (h : entity? name = some c) :
    '&' ∉ name := by
  have hdigits : ∀ radix (ds : List Char),
      (digits? radix ds).bind charOfNumber? = some c → '&' ∉ ds := by
    intro radix ds hds
    obtain ⟨n, hn, -⟩ := Option.bind_eq_some_iff.1 hds
    exact notMem_of_digits? rfl hn
  unfold entity? at h
  split at h
  · rename_i ds
    split at h
    · simp [hdigits 16 ds h]
    · cases h
  · rename_i ds _
    split at h
    · simp [hdigits 10 ds h]
    · cases h
  · split_ifs at h <;> simp_all

/-- A text with a semicolon goes on as an entity exactly if the first semicolon ends one. -/
lemma goesOnAsEntity_iff {name rest : List Char} (hname : ';' ∉ name) :
    GoesOnAsEntity (name ++ ';' :: rest) ↔ (entity? name).isSome = true := by
  constructor
  · rintro ⟨name', rest', heq, hname', hentity⟩
    rwa [(append_cons_inj hname hname' heq).1]
  · exact fun hentity => ⟨name, rest, rfl, hname, hentity⟩

lemma GoesOnAsEntity.append {s : List Char} (h : GoesOnAsEntity s) (t : List Char) :
    GoesOnAsEntity (s ++ t) := by
  obtain ⟨name, rest, rfl, hname, hentity⟩ := h
  exact ⟨name, rest ++ t, by simp, hname, hentity⟩

/-- Behind an entity a broken one is a broken one of the rest. -/
lemma hasBrokenEntity_append_iff {plain name rest : List Char} (hplain : '&' ∉ plain)
    (hname : ';' ∉ name) (hentity : (entity? name).isSome = true) :
    HasBrokenEntity (plain ++ '&' :: (name ++ ';' :: rest)) ↔ HasBrokenEntity rest := by
  obtain ⟨c, hc⟩ := Option.isSome_iff_exists.1 hentity
  have hfront : '&' ∉ name ++ [';'] := by simpa using notMem_of_entity? hc
  constructor
  · rintro ⟨a, b, heq, hbroken⟩
    obtain ⟨a', rfl, hrest⟩ := exists_of_append_eq_left hplain heq
    cases a' with
    | nil =>
      -- the first ampersand is not the broken one
      obtain rfl : name ++ ';' :: rest = b := by simpa using hrest
      exact absurd ((goesOnAsEntity_iff hname).2 hentity) hbroken
    | cons x a' =>
      have htail : (name ++ [';']) ++ rest = a' ++ '&' :: b := by
        simpa using (List.cons.inj hrest).2
      obtain ⟨a'', -, hrest⟩ := exists_of_append_eq_left hfront htail
      exact ⟨a'', b, hrest, hbroken⟩
  · rintro ⟨a, b, rfl, hbroken⟩
    exact ⟨plain ++ '&' :: (name ++ ';' :: a), b, by simp, hbroken⟩

/-- A text is not read back exactly if it has a broken entity. -/
theorem unescape?_eq_none_iff (s : List Char) : unescape? s = none ↔ HasBrokenEntity s := by
  -- from one ampersand to the next, by induction on the length
  induction hm : s.length using Nat.strongRecOn generalizing s with
  | _ m ih =>
    cases hcut : cutFirst '&' s with
    | none =>
      have hs : '&' ∉ s := cutFirst_eq_none.1 hcut
      rw [unescape?_of_notMem hs]
      refine iff_of_false (by simp) ?_
      rintro ⟨a, b, rfl, -⟩
      simp at hs
    | some p =>
      obtain ⟨plain, r⟩ := p
      obtain ⟨rfl, hplain⟩ := eq_of_cutFirst hcut
      have hbroken (h : ¬ GoesOnAsEntity r) : HasBrokenEntity (plain ++ '&' :: r) :=
        ⟨plain, r, rfl, h⟩
      rw [unescape?_eq, hcut]
      cases hcut' : cutFirst ';' r with
      | none =>
        refine iff_of_true (by simp [hcut']) (hbroken ?_)
        rintro ⟨name, rest, rfl, -⟩
        exact cutFirst_eq_none.1 hcut' (by simp)
      | some q =>
        obtain ⟨name, rest⟩ := q
        obtain ⟨rfl, hname⟩ := eq_of_cutFirst hcut'
        simp only [hcut']
        cases hentity : entity? name with
        | none =>
          refine iff_of_true (by simp) (hbroken ?_)
          rw [goesOnAsEntity_iff hname, hentity]
          simp
        | some c =>
          have hamp : name.contains '&' = false := by
            simpa using notMem_of_entity? hentity
          have hlt : rest.length < m := by
            rw [← hm]
            simp only [List.length_append, List.length_cons]
            omega
          rw [hasBrokenEntity_append_iff hplain hname (by simp [hentity]), ← ih _ hlt rest rfl,
            hamp]
          simp

/-- An entity is broken whether there are blanks at the ends of the text or not. -/
lemma HasBrokenEntity.dropEndsWhile {s : List Char} (h : HasBrokenEntity s) :
    HasBrokenEntity (dropEndsWhile isMarkupBlank s) := by
  obtain ⟨u, v, hs, hu, hv⟩ := exists_dropEndsWhile isMarkupBlank s
  generalize Text.dropEndsWhile isMarkupBlank s = m at hs
  have hamp : ∀ {w : List Char}, (∀ c ∈ w, isMarkupBlank c = true) → '&' ∉ w :=
    fun hw hmem => absurd (hw _ hmem) (by decide)
  obtain ⟨a, b, rfl, hbroken⟩ := h
  rw [List.append_assoc] at hs
  obtain ⟨a', rfl, hrest⟩ := exists_of_append_eq_left (hamp hu) hs.symm
  obtain ⟨b', rfl, rfl⟩ := exists_of_append_eq_right (hamp hv) hrest
  exact ⟨a', b', rfl, fun hentity => hbroken (hentity.append v)⟩

/-- The data of a run with a broken entity is the run, without the blanks of markup at its ends. -/
lemma HasBrokenEntity.runText_eq {s : List Char} (h : HasBrokenEntity s) :
    runText s = Text.dropEndsWhile isMarkupBlank s := by
  rw [runText, unescape, (unescape?_eq_none_iff _).2 h.dropEndsWhile, Option.getD_none]

end UpnpGateway.Xml
