/-
# Escaped texts

In an escaped text every character stands as it is, or is referred to by a name or a number between
an ampersand and a semicolon.  This file says which references there are and which text an escaped
text stands for, and shows that this text is read and that no other text is.
-/
import UpnpGateway.Proofs.Xml.Entities

namespace UpnpGateway.Xml

open UpnpGateway.Text

/-- What may stand between an ampersand and a semicolon, and the character it refers to.  Five
characters have names.  Every character but the first one of all has a number, which may be written
with as many digits as the last one of all needs. -/
inductive RefersTo : List Char → Char → Prop
  | lt : RefersTo "lt".toList '<'
  | gt : RefersTo "gt".toList '>'
  | amp : RefersTo "amp".toList '&'
  | apos : RefersTo "apos".toList '\''
  | quot : RefersTo "quot".toList '"'
  /-- The number in decimal. -/
  | decimal {ds : List Char} {c : Char} (hc : c ≠ '\x00') (hlength : ds.length ≤ 7)
      (hds : digits? 10 ds = some c.toNat) : RefersTo ('#' :: ds) c
  /-- The number in hexadecimal. -/
  | hexadecimal {ds : List Char} {c : Char} (hc : c ≠ '\x00') (hlength : ds.length ≤ 6)
      (hds : digits? 16 ds = some c.toNat) : RefersTo ('#' :: 'x' :: ds) c

/-- An escaped text, and the text that it stands for. -/
inductive StandsFor : List Char → List Char → Prop
  | nil : StandsFor [] []
  /-- A character that stands as it is. -/
  | plain {c : Char} {raw s : List Char} (hc : c ≠ '&') (h : StandsFor raw s) :
      StandsFor (c :: raw) (c :: s)
  /-- A character that is referred to. -/
  | reference {name : List Char} {c : Char} {raw s : List Char} (hname : RefersTo name c)
      (h : StandsFor raw s) : StandsFor ('&' :: (name ++ ';' :: raw)) (c :: s)

/-- Every character but the first one of all is the one that its number stands for. -/
lemma charOfNumber?_eq_some_iff {n : Nat} {c : Char} :
    charOfNumber? n = some c ↔ n = c.toNat ∧ c ≠ '\x00' := by
  constructor
  · intro h
    rw [charOfNumber?] at h
    obtain ⟨hn, hc⟩ := Option.ite_none_right_eq_some.1 h
    obtain rfl : Char.ofNat n = c := Option.some.inj hc
    have hvalid : n ≠ 0 ∧ (n < 0xD800 ∨ 0xDFFF < n ∧ n ≤ 0x10FFFF) := by simpa using hn
    have hnat : (Char.ofNat n).toNat = n := by
      have hscalar : n.isValidChar := by
        rw [Nat.isValidChar]
        omega
      rw [Char.ofNat, dif_pos hscalar]
      rfl
    refine ⟨hnat.symm, fun hzero => hvalid.1 ?_⟩
    rw [← hnat, hzero]
    rfl
  · rintro ⟨rfl, hc⟩
    have hne : c.toNat ≠ 0 := fun h => hc (Char.toNat_inj.1 h)
    have hvalid : c.toNat < 0xD800 ∨ 0xDFFF < c.toNat ∧ c.toNat ≤ 0x10FFFF := by
      rcases c.valid with h | ⟨hlow, hhigh⟩
      · exact .inl h
      · exact .inr ⟨hlow, Nat.le_of_lt_succ hhigh⟩
    rw [charOfNumber?, if_pos (by simpa using ⟨hne, hvalid⟩), Char.ofNat_toNat]

namespace RefersTo

variable {name : List Char} {c : Char} (h : RefersTo name c)
include h

lemma entity?_eq : entity? name = some c := by
  cases h with
  | lt | gt | amp | apos | quot => rfl
  | @decimal ds _ hc hlength hds =>
    have hx : ∀ ds', ds ≠ 'x' :: ds' := by
      rintro ds' rfl
      exact notMem_of_digits? rfl hds List.mem_cons_self
    rw [entity?]
    · rw [if_pos hlength, hds, Option.bind_some, charOfNumber?_eq_some_iff.2 ⟨rfl, hc⟩]
    · exact hx
  | hexadecimal hc hlength hds =>
    rw [entity?, if_pos hlength, hds, Option.bind_some, charOfNumber?_eq_some_iff.2 ⟨rfl, hc⟩]

lemma notMem_semicolon : ';' ∉ name := by
  cases h with
  | lt | gt | amp | apos | quot => decide
  | decimal hc hlength hds =>
    have hdigits := notMem_of_digits? (d := ';') rfl hds
    simpa using hdigits
  | hexadecimal hc hlength hds =>
    have hdigits := notMem_of_digits? (d := ';') rfl hds
    simpa using hdigits

end RefersTo

/-- The references are the names of entities, and they refer to what the entities stand for. -/
theorem refersTo_iff {name : List Char} {c : Char} : RefersTo name c ↔ entity? name = some c := by
  refine ⟨RefersTo.entity?_eq, fun h => ?_⟩
  have hnumber : ∀ {radix max : Nat} {ds : List Char},
      (if ds.length ≤ max then (digits? radix ds).bind charOfNumber? else none) = some c →
        c ≠ '\x00' ∧ ds.length ≤ max ∧ digits? radix ds = some c.toNat := by
    intro radix max ds hds
    obtain ⟨hlength, hds⟩ := Option.ite_none_right_eq_some.1 hds
    obtain ⟨n, hn, hc⟩ := Option.bind_eq_some_iff.1 hds
    obtain ⟨rfl, hne⟩ := charOfNumber?_eq_some_iff.1 hc
    exact ⟨hne, hlength, hn⟩
  rw [entity?.eq_def] at h
  split at h
  · obtain ⟨hc, hlength, hds⟩ := hnumber h
    exact .hexadecimal hc hlength hds
  · obtain ⟨hc, hlength, hds⟩ := hnumber h
    exact .decimal hc hlength hds
  · -- the five names, one after the other
    iterate 5
      split at h
      · rename_i hname
        obtain rfl := eq_of_beq hname
        cases h
        constructor
    cases h

/-- An escaped text is read as the text that it stands for, and no other text is read at all. -/
theorem standsFor_iff {raw s : List Char} : StandsFor raw s ↔ unescape? raw = some s := by
  constructor
  · intro h
    induction h with
    | nil => exact unescape?_nil
    | plain hc _ ih => rw [unescape?_cons hc, ih, Option.map_some]
    | reference hname _ ih =>
      have hamp := notMem_of_entity? hname.entity?_eq
      rw [unescape?_entity hname.notMem_semicolon hamp, hname.entity?_eq, ih, Option.bind_some,
        Option.map_some]
  · -- by induction on the length, since a reference is passed over at once
    induction hm : raw.length using Nat.strongRecOn generalizing raw s with
    | _ m ih =>
      subst hm
      intro h
      cases raw with
      | nil =>
        obtain rfl : [] = s := by simpa using h
        exact .nil
      | cons c raw =>
        by_cases hc : c = '&'
        · subst hc
          obtain ⟨name, rest, rfl, hname, hentity⟩ : GoesOnAsEntity raw := by
            by_contra hbroken
            have hnone := (unescape?_eq_none_iff ('&' :: raw)).2 ⟨[], raw, rfl, hbroken⟩
            rw [hnone] at h
            cases h
          obtain ⟨c, hc⟩ := Option.isSome_iff_exists.1 hentity
          rw [unescape?_entity hname (notMem_of_entity? hc), hc, Option.bind_some] at h
          obtain ⟨t, ht, rfl⟩ := Option.map_eq_some_iff.1 h
          refine .reference (refersTo_iff.2 hc) (ih _ ?_ rfl ht)
          simp only [List.length_cons, List.length_append]
          omega
        · rw [unescape?_cons hc] at h
          obtain ⟨t, ht, rfl⟩ := Option.map_eq_some_iff.1 h
          exact .plain hc (ih _ (by simp) rfl ht)

/-- Every text is what it stands for once it is escaped. -/
lemma standsFor_escape (s : List Char) : StandsFor (escape s) s :=
  standsFor_iff.2 (unescape?_escape s)

/-- A run is read as the text for which it stands without the blanks of markup at its ends. -/
lemma StandsFor.runText_eq {raw s : List Char}
    (h : StandsFor (dropEndsWhile isMarkupBlank raw) s) : runText raw = s := by
  rw [runText, unescape, standsFor_iff.1 h, Option.getD_some]

end UpnpGateway.Xml
