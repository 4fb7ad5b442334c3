/-
# Addresses are read as they are written

The written form of an address of either family is read back as the address.  Of sixteen bytes
there are three written forms: with the decimal form of four bytes at the end, with a row of
zero groups left out, and with all groups.
-/
import Mathlib.Data.List.TakeWhile
import UpnpGateway.Net.Ip
import UpnpGateway.Proofs.Text.Blank
import UpnpGateway.Proofs.Text.Cut
import UpnpGateway.Proofs.Text.Numeral

namespace UpnpGateway.Net

open UpnpGateway.Text

/-! ## Four bytes -/

namespace Ipv4

lemma byte?_decimal (n : UInt8) : byte? (decimal n.toNat) = some n := by
  have hlt : n.toNat < 256 := n.toNat_lt
  have hlen : (decimal n.toNat).length ≤ 3 :=
    (Nat.length_toDigits_le_iff (by decide) (by decide)).2 (by omega)
  have hzero : (decimal n.toNat).head? ≠ some '0' ∨ (decimal n.toNat).length = 1 := by
    rcases Nat.eq_zero_or_pos n.toNat with h | h
    · right
      rw [decimal, h]
      rfl
    · exact .inl (head?_toDigits (by decide) h)
  have hcond : ((decimal n.toNat).length ≤ 3 &&
      ((decimal n.toNat).head? != some '0' || (decimal n.toNat).length == 1)) = true := by
    simpa [hlen] using hzero
  have hdigits : digits? 10 (decimal n.toNat) = some n.toNat :=
    digits?_toDigits (by decide) (by decide) _
  rw [byte?, if_pos hcond, hdigits]
  have hle : n.toNat ≤ maxByte := by rw [maxByte]; omega
  simp [hle]

/-- The characters of the written form are digits and dots. -/
lemma notMem_chars (ip : Ipv4) : ':' ∉ ip.chars := by
  have hno : ∀ n, ':' ∉ decimal n := fun n hc => (plain_of_mem_decimal hc).2.2.1 rfl
  simp [chars, hno]

lemma not_isBlank_chars (ip : Ipv4) {c : Char} (hc : c ∈ ip.chars) : isBlank c = false := by
  have hdigits : ∀ n, c ∈ decimal n → isBlank c = false := fun n h => (plain_of_mem_decimal h).1
  simp only [chars, List.mem_append, List.mem_cons] at hc
  rcases hc with ((hc | rfl | hc) | rfl | hc) | rfl | hc
  all_goals first | rfl | exact hdigits _ hc

lemma contains_chars (ip : Ipv4) : ip.chars.contains '.' = true := by
  simp [chars]

lemma ofChars?_chars (ip : Ipv4) : ofChars? ip.chars = some ip := by
  have hno : ∀ n : Nat, ∀ c ∈ decimal n, (c == '.') = false := by
    intro n c hc
    simpa using (plain_of_mem_decimal hc).2.1
  have hsplit : splitWhere (· == '.') ip.chars =
      [decimal ip.a.toNat, decimal ip.b.toNat, decimal ip.c.toNat, decimal ip.d.toNat] := by
    simp only [chars, List.append_assoc, List.cons_append]
    rw [splitWhere_append_cons (hno _) rfl, splitWhere_append_cons (hno _) rfl,
      splitWhere_append_cons (hno _) rfl, splitWhere_of_forall (hno _)]
  rw [ofChars?, hsplit]
  simp [byte?_decimal]

lemma notMem_of_byte? {s : List Char} {n : UInt8} (h : byte? s = some n) : ':' ∉ s := by
  intro hc
  have hdigit : s.all (isDigitOf 10) = false := by
    rw [List.all_eq_false]
    exact ⟨':', hc, by decide⟩
  rw [byte?, digits?, hdigit] at h
  simp at h

/-- Four bytes are written without a colon. -/
lemma ofChars?_eq_none {s : List Char} (hc : ':' ∈ s) : ofChars? s = none := by
  by_contra hne
  obtain ⟨ip, hip⟩ := Option.ne_none_iff_exists'.1 hne
  rw [ofChars?] at hip
  split at hip
  · rename_i a b c d hsplit
    simp only [Option.bind_eq_bind, Option.bind_eq_some_iff] at hip
    obtain ⟨w, ha, x, hb, y, hc', z, hd, -⟩ := hip
    rcases exists_mem_splitWhere (p := (· == '.')) hc with hdot | ⟨v, hv, hcv⟩
    · simp at hdot
    · rw [hsplit] at hv
      simp only [List.mem_cons, List.not_mem_nil, or_false] at hv
      rcases hv with rfl | rfl | rfl | rfl
      · exact notMem_of_byte? ha hcv
      · exact notMem_of_byte? hb hcv
      · exact notMem_of_byte? hc' hcv
      · exact notMem_of_byte? hd hcv
  · simp at hip

end Ipv4

/-! ## Groups -/

namespace Ipv6

lemma group?_hexadecimal (g : UInt16) : group? (hexadecimal g.toNat) = some g := by
  have hlt : g.toNat < 65536 := g.toNat_lt
  have hlen : (hexadecimal g.toNat).length ≤ 4 :=
    (Nat.length_toDigits_le_iff (by decide) (by decide)).2 (by omega)
  rw [group?, if_pos hlen, hexadecimal, digits?_toDigits (by decide) (by decide)]
  simp

lemma joinGroups_cons (g : UInt16) {groups : List UInt16} (hne : groups ≠ []) :
    joinGroups (g :: groups) = hexadecimal g.toNat ++ ':' :: joinGroups groups := by
  cases groups with
  | nil => exact absurd rfl hne
  | cons h groups => simp [joinGroups, List.intercalate_cons_cons]

/-- The characters of a group are hexadecimal digits. -/
lemma ne_of_mem_hexadecimal {n : Nat} {c : Char} (hc : c ∈ hexadecimal n) : c ≠ '.' ∧ c ≠ ':' :=
  ⟨(plain_of_mem_hexadecimal hc).2.1, (plain_of_mem_hexadecimal hc).2.2.1⟩

lemma joinGroups_ne_nil {groups : List UInt16} (hne : groups ≠ []) : joinGroups groups ≠ [] := by
  match groups, hne with
  | [g], _ => simpa [joinGroups] using hexadecimal_ne_nil g.toNat
  | g :: h :: groups, _ => simp [joinGroups_cons g (show h :: groups ≠ [] by simp)]

lemma plainGroups?_joinGroups (groups : List UInt16) :
    plainGroups? (joinGroups groups) = some groups := by
  cases groups with
  | nil => rfl
  | cons g groups =>
    have hempty : (joinGroups (g :: groups)).isEmpty = false := by
      simpa using joinGroups_ne_nil (show g :: groups ≠ [] by simp)
    have hsplit : splitWhere (· == ':') (joinGroups (g :: groups)) =
        (g :: groups).map fun g => hexadecimal g.toNat := by
      refine splitWhere_intercalate rfl (by simp) fun w hw c hc => ?_
      obtain ⟨k, -, rfl⟩ := List.mem_map.1 hw
      simpa using (ne_of_mem_hexadecimal hc).2
    have hgroup : group? ∘ (fun g : UInt16 => hexadecimal g.toNat) = pure := by
      funext k
      exact group?_hexadecimal k
    rw [plainGroups?, hempty, hsplit]
    simp only [Bool.false_eq_true, ↓reduceIte, List.mapM_map, hgroup]
    exact List.mapM_pure.trans (by simp)

lemma of_mem_joinGroups {groups : List UInt16} {c : Char} (hc : c ∈ joinGroups groups) :
    c = ':' ∨ ∃ n, c ∈ hexadecimal n := by
  induction groups with
  | nil => simp [joinGroups] at hc
  | cons g groups ih =>
    by_cases hne : groups = []
    · exact .inr ⟨g.toNat, by simpa [hne, joinGroups] using hc⟩
    · rw [joinGroups_cons g hne, List.mem_append, List.mem_cons] at hc
      rcases hc with hc | rfl | hc
      · exact .inr ⟨g.toNat, hc⟩
      · exact .inl rfl
      · exact ih hc

lemma notMem_joinGroups (groups : List UInt16) : '.' ∉ joinGroups groups := by
  intro hc
  rcases of_mem_joinGroups hc with h | ⟨n, h⟩
  · exact absurd h (by decide)
  · exact (ne_of_mem_hexadecimal h).1 rfl

lemma not_isBlank_joinGroups {groups : List UInt16} {c : Char} (hc : c ∈ joinGroups groups) :
    isBlank c = false := by
  rcases of_mem_joinGroups hc with rfl | ⟨n, h⟩
  · rfl
  · exact (plain_of_mem_hexadecimal h).1

lemma ne_of_head?_joinGroups {groups : List UInt16} {c : Char}
    (hc : (joinGroups groups).head? = some c) : c ≠ ':' := by
  cases groups with
  | nil => simp [joinGroups] at hc
  | cons g groups =>
    have hhead : (hexadecimal g.toNat).head? = some c := by
      by_cases hne : groups = []
      · simpa [hne, joinGroups] using hc
      · rw [joinGroups_cons g hne, List.head?_append] at hc
        cases hg : (hexadecimal g.toNat).head? with
        | none => exact absurd (List.head?_eq_none_iff.1 hg) (hexadecimal_ne_nil _)
        | some d => simpa [hg] using hc
    exact (ne_of_mem_hexadecimal (List.mem_of_head? hhead)).2

lemma getLast?_joinGroups (groups : List UInt16) : (joinGroups groups).getLast? ≠ some ':' := by
  induction groups with
  | nil => simp [joinGroups]
  | cons g groups ih =>
    by_cases hne : groups = []
    · intro hlast
      have hmem : ':' ∈ hexadecimal g.toNat :=
        List.mem_of_getLast? (by simpa [hne, joinGroups] using hlast)
      exact (ne_of_mem_hexadecimal hmem).2 rfl
    · rw [joinGroups_cons g hne, List.getLast?_append, List.getLast?_cons]
      cases hlast : (joinGroups groups).getLast? with
      | none => exact absurd (List.getLast?_eq_none_iff.1 hlast) (joinGroups_ne_nil hne)
      | some d => simpa [hlast] using ih

/-- No two colons stand side by side between groups. -/
lemma isChain_joinGroups (groups : List UInt16) :
    (joinGroups groups).IsChain fun c d => c = ':' → d ≠ ':' := by
  have hdigits : ∀ g : UInt16, ∀ c ∈ hexadecimal g.toNat, ∀ d, c = ':' → d ≠ ':' :=
    fun g c hc d hcolon => absurd hcolon (ne_of_mem_hexadecimal hc).2
  induction groups with
  | nil => simp [joinGroups]
  | cons g groups ih =>
    by_cases hne : groups = []
    · have hpair : (hexadecimal g.toNat).Pairwise fun c d => c = ':' → d ≠ ':' :=
        List.pairwise_of_forall_mem_list fun c hc d _ => hdigits g c hc d
      simpa [hne, joinGroups] using hpair.isChain
    · have hpair : (hexadecimal g.toNat ++ [':']).Pairwise fun c d => c = ':' → d ≠ ':' := by
        refine List.pairwise_append.2 ⟨List.pairwise_of_forall_mem_list fun c hc d _ =>
          hdigits g c hc d, List.pairwise_singleton _ _, fun c hc d _ => hdigits g c hc d⟩
      rw [joinGroups_cons g hne, List.isChain_split]
      exact ⟨hpair.isChain, List.isChain_cons.2 ⟨fun d hd _ => ne_of_head?_joinGroups hd, ih⟩⟩

/-! ### The longest row of zero groups -/

/-- The longer one of a row and the row of zero groups that begins at a place. -/
def longerRow (groups : List UInt16) (best : Nat × Nat) (i : Nat) : Nat × Nat :=
  let n := ((groups.drop i).takeWhile (· == 0)).length
  if best.2 < n then (i, n) else best

/-- A place with the number of zero groups from there on, unless it is the row to begin with. -/
def IsRow (groups : List UInt16) (row : Nat × Nat) : Prop :=
  row = (0, 0) ∨ row.2 = ((groups.drop row.1).takeWhile (· == 0)).length

lemma IsRow.foldl {groups : List UInt16} {best : Nat × Nat} (h : IsRow groups best)
    (places : List Nat) : IsRow groups (places.foldl (longerRow groups) best) := by
  induction places generalizing best with
  | nil => exact h
  | cons i places ih =>
    refine ih ?_
    rw [longerRow]
    split
    · exact .inr rfl
    · exact h

lemma isRow_longestZeros (groups : List UInt16) : IsRow groups (longestZeros groups) :=
  IsRow.foldl (.inl rfl) (List.range groups.length)

/-- A row of zero groups can be left out and put in again. -/
lemma eq_append_of_isRow {groups : List UInt16} {start n : Nat} (h : IsRow groups (start, n))
    (hn : 2 ≤ n) :
    groups = groups.take start ++ List.replicate n 0 ++ groups.drop (start + n) := by
  have hlen : n = ((groups.drop start).takeWhile (· == 0)).length := by
    rcases h with h | h
    · simp only [Prod.mk.injEq] at h
      omega
    · exact h
  have hzeros : (groups.drop start).takeWhile (· == 0) = List.replicate n 0 := by
    rw [List.eq_replicate_iff]
    exact ⟨hlen.symm, fun g hg => by simpa using List.mem_takeWhile_imp hg⟩
  have hsplit : groups.drop start =
      List.replicate n 0 ++ (groups.drop start).dropWhile (· == 0) := by
    rw [← hzeros, List.takeWhile_append_dropWhile]
  have hrest : groups.drop (start + n) = (groups.drop start).dropWhile (· == 0) := by
    rw [← List.drop_drop]
    conv_lhs => rw [hsplit, List.drop_left' List.length_replicate]
  calc groups = groups.take start ++ groups.drop start := (List.take_append_drop ..).symm
    _ = groups.take start ++ (List.replicate n 0 ++ groups.drop (start + n)) := by
      rw [hrest, ← hsplit]
    _ = _ := (List.append_assoc ..).symm

/-! ### Sixteen bytes -/

lemma mixedGroups?_of_notMem {s : List Char} (h : '.' ∉ s) : mixedGroups? s = plainGroups? s := by
  rw [mixedGroups?]
  split
  · rename_i front last hcut
    rw [(eq_of_cutLast hcut).1, List.mem_append, List.mem_cons] at h
    have hlast : '.' ∉ last := fun hmem => h (.inr (.inr hmem))
    rw [if_neg (by simpa using hlast)]
  · rw [if_neg (by simpa using h)]

lemma mixedGroups?_joinGroups (groups : List UInt16) :
    mixedGroups? (joinGroups groups) = some groups := by
  rw [mixedGroups?_of_notMem (notMem_joinGroups groups), plainGroups?_joinGroups]

lemma ofGroups?_groups (ip : Ipv6) : ofGroups? ip.groups = some ip := dif_pos ip.length_groups

lemma ofChars?_shortened (ip : Ipv6) : ofChars? (shortened ip.groups) = some ip := by
  have hcolons : "::".toList = [':', ':'] := rfl
  have hcut : ∀ groups, cutRun [':', ':'] (joinGroups groups) = none :=
    fun groups => cutRunFrom_eq_none_of_isChain (isChain_joinGroups groups) []
  have hrow := isRow_longestZeros ip.groups
  -- all that matters of the row is that zero groups stand where it says
  rw [shortened]
  generalize longestZeros ip.groups = row at hrow
  obtain ⟨start, n⟩ := row
  dsimp only
  split
  · rename_i hn
    have hgroups := eq_append_of_isRow hrow hn
    have hlen := congrArg List.length hgroups
    simp only [List.length_append, List.length_replicate, ip.length_groups] at hlen
    have hleft : 8 - ((ip.groups.take start).length + (ip.groups.drop (start + n)).length) = n := by
      omega
    have hle : (ip.groups.take start).length + (ip.groups.drop (start + n)).length ≤ 7 := by
      omega
    rw [ofChars?, hcolons, cutRun_pair (hcut _) fun _ => getLast?_joinGroups _]
    simp only [plainGroups?_joinGroups, mixedGroups?_joinGroups, Option.bind_eq_bind,
      Option.bind_some, hleft, if_pos hle]
    rw [← hgroups, ofGroups?_groups]
  · have hne : ip.groups ≠ [] := by
      intro hnil
      simpa [hnil] using ip.length_groups
    have hempty : (joinGroups ip.groups).isEmpty = false := by simpa using joinGroups_ne_nil hne
    rw [ofChars?, hcolons, hcut]
    simp only [hempty, Bool.false_eq_true, ↓reduceIte, mixedGroups?_joinGroups, Option.bind_some,
      ofGroups?_groups]

lemma groupsOf_ipv4Of (g h : UInt16) : groupsOf (ipv4Of g h) = [g, h] := by
  have hbytes : ∀ k : UInt16, (k / 256).toUInt8.toUInt16 * 256 + k.toUInt8.toUInt16 = k := by
    intro k
    have hlt : k.toNat < 65536 := k.toNat_lt
    rw [← UInt16.toNat_inj]
    simp only [UInt16.toNat_add, UInt16.toNat_mul, UInt8.toNat_toUInt16, UInt16.toNat_toUInt8,
      UInt16.toNat_div, UInt16.reduceToNat]
    omega
  rw [groupsOf, ipv4Of, hbytes, hbytes]

/-- An address of four bytes that is mapped into one of sixteen keeps its decimal form. -/
lemma ofChars?_mapped (g h : UInt16) :
    ofChars? ("::ffff:".toList ++ (ipv4Of g h).chars) =
      ofGroups? [0, 0, 0, 0, 0, 0xFFFF, g, h] := by
  have hcut : cutRun "::".toList ("::ffff:".toList ++ (ipv4Of g h).chars) =
      some ([], "ffff".toList ++ ':' :: (ipv4Of g h).chars) := rfl
  have hmixed : mixedGroups? ("ffff".toList ++ ':' :: (ipv4Of g h).chars) =
      some [0xFFFF, g, h] := by
    have hfront : plainGroups? "ffff".toList = some [0xFFFF] := by decide
    have hempty : "ffff".toList.isEmpty = false := rfl
    rw [mixedGroups?, cutLast_append (Ipv4.notMem_chars _)]
    simp only [Ipv4.contains_chars, ↓reduceIte, Ipv4.ofChars?_chars, Option.bind_eq_bind,
      Option.bind_some, groupsOf_ipv4Of, hempty, hfront]
    rfl
  rw [ofChars?, hcut]
  simp only [hmixed]
  rfl

lemma ofChars?_chars (ip : Ipv6) : ofChars? ip.chars = some ip := by
  rw [chars]
  split
  · rename_i g h hgroups
    rw [ofChars?_mapped, ← hgroups, ofGroups?_groups]
  · exact ofChars?_shortened ip

/-- Sixteen bytes are written with a colon. -/
lemma mem_chars (ip : Ipv6) : ':' ∈ ip.chars := by
  have hjoin : ∀ g h groups, ':' ∈ joinGroups (g :: h :: groups) := by
    intro g h groups
    rw [joinGroups_cons g (by simp)]
    simp
  rw [chars]
  split
  · simp
  · rw [shortened]
    dsimp only
    split
    · simp
    · match hgroups : ip.groups, ip.length_groups with
      | g :: h :: groups, _ => exact hjoin g h groups

lemma not_isBlank_chars (ip : Ipv6) {c : Char} (hc : c ∈ ip.chars) : isBlank c = false := by
  rw [chars] at hc
  split at hc
  · rcases List.mem_append.1 hc with hc | hc
    · have hall : "::ffff:".toList.all (fun c => !isBlank c) = true := by decide
      simpa using List.all_eq_true.1 hall c hc
    · exact Ipv4.not_isBlank_chars _ hc
  · rw [shortened] at hc
    dsimp only at hc
    split at hc
    · simp only [List.mem_append, List.mem_cons] at hc
      rcases hc with hc | rfl | rfl | hc
      · exact not_isBlank_joinGroups hc
      · rfl
      · rfl
      · exact not_isBlank_joinGroups hc
    · exact not_isBlank_joinGroups hc

end Ipv6

/-- An address is written without blanks. -/
lemma Ip.trimmed_text (ip : Ip) : trimmed ip.text = ip.text := by
  cases ip with
  | v4 ip =>
    rw [Ip.text, Ipv4.text, trimmed, String.toList_ofList,
      trim_of_forall fun c hc => ip.not_isBlank_chars hc]
  | v6 ip =>
    rw [Ip.text, Ipv6.text, trimmed, String.toList_ofList,
      trim_of_forall fun c hc => ip.not_isBlank_chars hc]

/-- An address is read back from its text. -/
lemma Ip.parse?_text (ip : Ip) : Ip.parse? ip.text = some ip := by
  cases ip with
  | v4 ip =>
    rw [Ip.parse?, Ip.text, Ipv4.parse?, Ipv4.text, String.toList_ofList, Ipv4.ofChars?_chars]
    rfl
  | v6 ip =>
    rw [Ip.parse?, Ip.text, Ipv4.parse?, Ipv6.parse?, Ipv6.text, String.toList_ofList,
      Ipv4.ofChars?_eq_none ip.mem_chars, Ipv6.ofChars?_chars]
    rfl

end UpnpGateway.Net
