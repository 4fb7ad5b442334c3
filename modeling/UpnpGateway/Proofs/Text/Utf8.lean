/-
# Text and its bytes

A text is read back from its bytes.  Bytes that are no text are read as well, with replacement
characters, and a byte of ASCII stands out among them: it is never a part of another character
and never swallowed with broken ones, so what is read of a row of bytes can be cut at it.
-/
import Mathlib.Data.List.Basic
import Mathlib.Tactic.Lemma
import UpnpGateway.Text.Utf8

namespace UpnpGateway.Text

/-! ## Writing -/

lemma encodeUtf8_append (s t : List Char) : encodeUtf8 (s ++ t) = encodeUtf8 s ++ encodeUtf8 t :=
  List.flatMap_append

lemma encodeUtf8_cons (c : Char) (s : List Char) :
    encodeUtf8 (c :: s) = String.utf8EncodeChar c ++ encodeUtf8 s :=
  List.flatMap_cons

lemma length_encodeUtf8 (s : String) : (encodeUtf8 s.toList).length = s.utf8ByteSize := by
  rw [← String.ofList_toList (s := s), String.utf8ByteSize, String.toByteArray_ofList,
    String.toList_ofList, List.utf8Encode, List.size_toByteArray]
  rfl

lemma encodeUtf8_ne_nil {s : List Char} (hne : s ≠ []) : encodeUtf8 s ≠ [] := by
  obtain ⟨c, s, rfl⟩ := List.exists_cons_of_ne_nil hne
  simp [encodeUtf8, String.utf8EncodeChar_ne_nil]

/-- A byte of ASCII stands for its character only. -/
lemma toNat_of_mem_utf8EncodeChar {c : Char} {b : UInt8} (hb : b ∈ String.utf8EncodeChar c)
    (hlt : b.toNat < 0x80) : b.toNat = c.toNat := by
  have hnat : c.val.toNat = c.toNat := rfl
  rw [String.utf8EncodeChar, hnat] at hb
  split at hb
  · obtain rfl := List.mem_singleton.1 hb
    rw [UInt8.toNat_ofNat']
    omega
  -- all bytes of a longer row are above ASCII
  · exfalso
    split at hb
    · simp only [List.mem_cons, List.not_mem_nil, or_false] at hb
      rcases hb with rfl | rfl <;> rw [UInt8.toNat_ofNat'] at hlt <;> omega
    · split at hb
      · simp only [List.mem_cons, List.not_mem_nil, or_false] at hb
        rcases hb with rfl | rfl | rfl <;> rw [UInt8.toNat_ofNat'] at hlt <;> omega
      · simp only [List.mem_cons, List.not_mem_nil, or_false] at hb
        rcases hb with rfl | rfl | rfl | rfl <;> rw [UInt8.toNat_ofNat'] at hlt <;> omega

lemma exists_of_encodeUtf8_eq_cons {s : List Char} {b : UInt8} {bs : List UInt8}
    (hlt : b.toNat < 0x80) (h : encodeUtf8 s = b :: bs) :
    ∃ c t, s = c :: t ∧ c.toNat = b.toNat := by
  cases s with
  | nil => simp [encodeUtf8] at h
  | cons c t =>
    refine ⟨c, t, rfl, ?_⟩
    obtain ⟨b', bs', hc⟩ := List.exists_cons_of_ne_nil (String.utf8EncodeChar_ne_nil (c := c))
    rw [encodeUtf8, List.flatMap_cons, hc, List.cons_append] at h
    obtain ⟨rfl, -⟩ := List.cons.inj h
    exact (toNat_of_mem_utf8EncodeChar (hc ▸ List.mem_cons_self) hlt).symm

/-- A byte of ASCII in the bytes of a text is there for a character of the text. -/
lemma exists_of_mem_encodeUtf8 {s : List Char} {b : UInt8} (hlt : b.toNat < 0x80)
    (hb : b ∈ encodeUtf8 s) : ∃ c ∈ s, c.toNat = b.toNat := by
  obtain ⟨c, hc, hbc⟩ := List.mem_flatMap.1 hb
  exact ⟨c, hc, (toNat_of_mem_utf8EncodeChar hbc hlt).symm⟩

/-! ## Reading -/

/-- A character is read exactly if its bytes come first. -/
lemma headChar?_eq_some_iff {bytes : List UInt8} {c : Char} :
    headChar? bytes = some c ↔ String.utf8EncodeChar c <+: bytes := by
  constructor
  · intro h
    obtain ⟨l, hl⟩ := ByteArray.exists_of_utf8DecodeChar?_eq_some h
    have hlist := congrArg (fun b : ByteArray => b.data.toList) hl
    simp only [ByteArray.data_append, Array.toList_append, List.toList_data_toByteArray] at hlist
    exact (hlist ▸ List.prefix_append _ _).trans (List.take_prefix 4 bytes)
  · rintro ⟨t, rfl⟩
    have hlen : (String.utf8EncodeChar c).length ≤ 4 :=
      String.length_utf8EncodeChar c ▸ Char.utf8Size_le_four c
    rw [headChar?, List.take_append, List.take_of_length_le hlen, List.toByteArray_append]
    exact ByteArray.utf8DecodeChar?_utf8EncodeChar_append

/-- The characters read so far only stand before the others. -/
lemma decodeUtf8From_eq (done : List Char) (bytes : List UInt8) :
    decodeUtf8From done bytes = done.reverse ++ decodeUtf8 bytes := by
  induction hm : bytes.length using Nat.strongRecOn generalizing done bytes with
  | _ m ih =>
    subst hm
    cases bytes with
    | nil => simp [decodeUtf8, decodeUtf8From]
    | cons b r =>
      have hlt : ∀ n, (r.drop n).length < (b :: r).length := by
        intro n
        simp only [List.length_drop, List.length_cons]
        omega
      rw [decodeUtf8, decodeUtf8From, decodeUtf8From]
      cases headChar? (b :: r) with
      | some c =>
        dsimp only
        rw [ih _ (hlt _) (c :: done) _ rfl, ih _ (hlt _) [c] _ rfl]
        simp
      | none =>
        dsimp only
        rw [ih _ (hlt _) (replacement :: done) _ rfl, ih _ (hlt _) [replacement] _ rfl]
        simp

@[simp] lemma decodeUtf8_nil : decodeUtf8 [] = [] := by rw [decodeUtf8, decodeUtf8From]; rfl

lemma decodeUtf8_utf8EncodeChar_append (c : Char) (r : List UInt8) :
    decodeUtf8 (String.utf8EncodeChar c ++ r) = c :: decodeUtf8 r := by
  have hhead := headChar?_eq_some_iff.2 (List.prefix_append (String.utf8EncodeChar c) r)
  obtain ⟨b, bs, hc⟩ := List.exists_cons_of_ne_nil (String.utf8EncodeChar_ne_nil (c := c))
  have hlen : bs.length = c.utf8Size - 1 := by
    rw [← String.length_utf8EncodeChar c, hc, List.length_cons, Nat.add_sub_cancel]
  rw [hc, List.cons_append] at hhead ⊢
  rw [decodeUtf8, decodeUtf8From, hhead]
  dsimp only
  rw [decodeUtf8From_eq, ← hlen, List.drop_left]
  rfl

/-- Bytes that begin no character are read as one replacement character. -/
lemma decodeUtf8_of_headChar?_eq_none {b : UInt8} {r : List UInt8}
    (h : headChar? (b :: r) = none) :
    decodeUtf8 (b :: r) = replacement :: decodeUtf8 (r.drop (brokenLength (b :: r) - 1)) := by
  rw [decodeUtf8, decodeUtf8From, h]
  dsimp only
  rw [decodeUtf8From_eq]
  rfl

/-- Bytes are read from the front: what comes first is a character, or some broken bytes. -/
@[elab_as_elim]
lemma bytes_induction {P : List UInt8 → Prop} (nil : P [])
    (char : ∀ c r, P r → P (String.utf8EncodeChar c ++ r))
    (broken : ∀ b r, headChar? (b :: r) = none →
      P (r.drop (brokenLength (b :: r) - 1)) → P (b :: r)) (bytes : List UInt8) : P bytes := by
  induction hm : bytes.length using Nat.strongRecOn generalizing bytes with
  | _ m ih =>
    subst hm
    cases bytes with
    | nil => exact nil
    | cons b r =>
      cases hhead : headChar? (b :: r) with
      | some c =>
        obtain ⟨t, ht⟩ := headChar?_eq_some_iff.1 hhead
        have hpos := c.utf8Size_pos
        have hlt : t.length < (b :: r).length := by
          rw [← ht, List.length_append, String.length_utf8EncodeChar]
          omega
        exact ht ▸ char c t (ih _ hlt t rfl)
      | none =>
        have hlt : (r.drop (brokenLength (b :: r) - 1)).length < (b :: r).length := by
          simp only [List.length_drop, List.length_cons]
          omega
        exact broken b r hhead (ih _ hlt _ rfl)

/-- A text is read as it was written, whatever stands behind it. -/
lemma decodeUtf8_encodeUtf8_append (s : List Char) (r : List UInt8) :
    decodeUtf8 (encodeUtf8 s ++ r) = s ++ decodeUtf8 r := by
  induction s with
  | nil => rfl
  | cons c s ih =>
    rw [encodeUtf8_cons, List.append_assoc, decodeUtf8_utf8EncodeChar_append, ih, List.cons_append]

lemma decodeUtf8_encodeUtf8 (s : List Char) : decodeUtf8 (encodeUtf8 s) = s := by
  simpa using decodeUtf8_encodeUtf8_append s []

/-! ## Bytes of ASCII -/

/-- Bytes that begin no character still begin none when a byte of ASCII follows. -/
lemma headChar?_append_cons {a : List UInt8} {b : UInt8} (hb : b.toNat < 0x80) (r : List UInt8)
    (hne : a ≠ []) (h : headChar? a = none) : headChar? (a ++ b :: r) = none := by
  cases hc : headChar? (a ++ b :: r) with
  | none => rfl
  | some c =>
    exfalso
    have hprefix := headChar?_eq_some_iff.1 hc
    rcases List.prefix_or_prefix_of_prefix hprefix (List.prefix_append a (b :: r)) with ha | ha
    · rw [headChar?_eq_some_iff.2 ha] at h
      cases h
    · -- the character would go on behind `a`, so the byte would be its last or an inner one
      obtain ⟨t, ht⟩ := ha
      have ht' : t <+: b :: r := by
        rw [← ht] at hprefix
        exact (List.prefix_append_right_inj a).1 hprefix
      cases t with
      | nil =>
        have ha : headChar? a = some c := headChar?_eq_some_iff.2 (by simp [← ht])
        rw [ha] at h
        cases h
      | cons b' t =>
        obtain rfl : b' = b := (List.cons_prefix_cons.1 ht').1
        have hcb := toNat_of_mem_utf8EncodeChar (c := c) (ht ▸ by simp) hb
        have hsize : c.utf8Size = 1 := by
          rw [Char.utf8Size_eq_one_iff, UInt32.le_iff_toNat_le]
          have hnat : c.val.toNat = c.toNat := rfl
          rw [hnat, ← hcb]
          exact Nat.le_of_lt_succ hb
        have hlen := congrArg List.length ht
        rw [String.length_utf8EncodeChar, hsize] at hlen
        have hpos := List.length_pos_iff.2 hne
        simp only [List.length_append, List.length_cons] at hlen
        omega

lemma brokenLength_le {a : List UInt8} (hne : a ≠ []) : brokenLength a ≤ a.length := by
  unfold brokenLength
  split
  · split
    · simp
    · split
      · split <;> simp
      · simp
  · exact List.length_pos_iff.2 hne

/-- A byte of ASCII goes on no character. -/
lemma brokenLength_append_cons {a : List UInt8} {b : UInt8} (hb : b.toNat < 0x80)
    (r : List UInt8) (hne : a ≠ []) : brokenLength (a ++ b :: r) = brokenLength a := by
  have hlow : ¬ 0x80 ≤ b := by
    rw [UInt8.le_iff_toNat_le]
    exact Nat.not_le.2 hb
  match a, hne with
  | [x], _ =>
    have hcontinues : continues x b = false := by
      have hb' : ∀ n : UInt8, 0x80 ≤ n → ¬ n ≤ b := fun n hn hnb => hlow (UInt8.le_trans hn hnb)
      simp [continues, hb' 0xA0 (by decide), hb' 0x80 (by decide), hb' 0x90 (by decide)]
    simp [brokenLength, hcontinues]
  | [x, y], _ => simp [brokenLength, hlow]
  | x :: y :: z :: a, _ => rfl

/-- What is read of a row of bytes is cut at a byte of ASCII. -/
lemma decodeUtf8_append_cons {b : UInt8} (hb : b.toNat < 0x80) (a r : List UInt8) :
    decodeUtf8 (a ++ b :: r) = decodeUtf8 a ++ decodeUtf8 (b :: r) := by
  induction a using bytes_induction with
  | nil => simp
  | char c a ih =>
    rw [List.append_assoc, decodeUtf8_utf8EncodeChar_append, decodeUtf8_utf8EncodeChar_append, ih,
      List.cons_append]
  | broken x a hhead ih =>
    -- as many bytes are broken as without what follows
    have hhead' := headChar?_append_cons hb r (List.cons_ne_nil x a) hhead
    have hbroken := brokenLength_append_cons hb r (List.cons_ne_nil x a)
    have hle := brokenLength_le (List.cons_ne_nil x a)
    rw [List.length_cons] at hle
    rw [List.cons_append] at hhead' hbroken ⊢
    rw [decodeUtf8_of_headChar?_eq_none hhead, decodeUtf8_of_headChar?_eq_none hhead', hbroken,
      List.drop_append_of_le_length (by omega), ih, List.cons_append]

/-- What is read is what the bytes say, the replacement character apart. -/
lemma utf8EncodeChar_infix_of_mem {bytes : List UInt8} {c : Char} (hne : c ≠ replacement)
    (hc : c ∈ decodeUtf8 bytes) : String.utf8EncodeChar c <:+: bytes := by
  induction bytes using bytes_induction with
  | nil => simp at hc
  | char d r ih =>
    rw [decodeUtf8_utf8EncodeChar_append] at hc
    rcases List.mem_cons.1 hc with rfl | hc
    · exact (List.prefix_append _ _).isInfix
    · exact (ih hc).trans (List.suffix_append _ _).isInfix
  | broken b r hhead ih =>
    rw [decodeUtf8_of_headChar?_eq_none hhead] at hc
    have hbehind := ih ((List.mem_cons.1 hc).resolve_left hne)
    exact hbehind.trans ((List.drop_suffix _ _).trans (List.suffix_cons b r)).isInfix

lemma decodeUtf8_ne_nil {bytes : List UInt8} (hne : bytes ≠ []) : decodeUtf8 bytes ≠ [] := by
  induction bytes using bytes_induction with
  | nil => exact absurd rfl hne
  | char c r =>
    rw [decodeUtf8_utf8EncodeChar_append]
    exact List.cons_ne_nil _ _
  | broken b r hhead =>
    rw [decodeUtf8_of_headChar?_eq_none hhead]
    exact List.cons_ne_nil _ _

end UpnpGateway.Text
