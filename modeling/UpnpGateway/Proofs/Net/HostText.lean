/-
# The characters of hosts

A host is an address or a name.  Neither has blanks in it, whatever a URL is read from: a name is
refused if it has, and what is not ASCII in it is written in digits and letters.
-/
import UpnpGateway.Net.Url.Parse
import UpnpGateway.Proofs.Net.IpText
import UpnpGateway.Proofs.Text.Solid

namespace UpnpGateway.Net

open UpnpGateway.Text

/-! ## Addresses -/

lemma Ipv4.isSolid_chars (ip : Ipv4) : IsSolid ip.chars := fun _ hc => ip.not_isBlank_chars hc

lemma Ipv6.isSolid_shortened (groups : List UInt16) : IsSolid (shortened groups) := by
  have hjoin : ∀ groups, IsSolid (joinGroups groups) := fun _ _ hc => not_isBlank_joinGroups hc
  have hcolon : isBlank ':' = false := rfl
  rw [shortened]
  generalize longestZeros groups = row
  obtain ⟨start, n⟩ := row
  dsimp only
  split
  · exact (hjoin _).append (.cons hcolon (.cons hcolon (hjoin _)))
  · exact hjoin groups

/-! ## Punycode -/

namespace Domain.Punycode

lemma not_isBlank_digit {d : Nat} (hd : d < 36) : isBlank (digit d) = false := by
  revert d
  decide

lemma threshold_le (bias k : Nat) : threshold bias k ≤ 26 := by
  unfold threshold
  dsimp only
  split
  · decide
  · split <;> omega

lemma isSolid_number (bias k q : Nat) : IsSolid (number bias k q) := by
  have hle := threshold_le bias k
  induction k, q using number.induct bias with
  | case1 k q hq =>
    rw [number, if_pos hq]
    exact .cons (not_isBlank_digit (by omega)) .nil
  | case2 k q hq ih =>
    have hmod := Nat.mod_lt (q - threshold bias k) (show 0 < 36 - threshold bias k by omega)
    rw [number, if_neg hq]
    exact .cons (not_isBlank_digit (by omega)) (ih (threshold_le bias (k + 1)))

lemma isSolid_put {cs : List Char} {s : Encoder} (hs : IsSolid s.written) (basic n : Nat) :
    IsSolid (Encoder.put cs basic s n).written := by
  rw [Encoder.put]
  induction cs generalizing s with
  | nil => exact hs
  | cons c cs ih =>
    rw [List.foldl_cons]
    refine ih ?_
    split
    · exact hs
    · split
      · exact hs.append (isSolid_number s.bias 0 s.passed)
      · exact hs

/-- Characters are written without blanks if those of them that are ASCII are no blanks. -/
lemma isSolid_encode {cs : List Char} (hcs : ∀ c ∈ cs, c.toNat < 0x80 → isBlank c = false) :
    IsSolid (encode cs) := by
  have hbasic : IsSolid (cs.filter (·.toNat < 0x80)) := by
    intro c hc
    obtain ⟨hmem, hlt⟩ := List.mem_filter.1 hc
    exact hcs c hmem (by simpa using hlt)
  have hstart : IsSolid (if (cs.filter (·.toNat < 0x80)).isEmpty then []
      else cs.filter (·.toNat < 0x80) ++ ['-']) := by
    split
    · exact .nil
    · exact hbasic.append (.cons rfl .nil)
  -- every further character adds numbers to what is written
  have hfold : ∀ (ns : List Nat) (f : Encoder × Nat → Nat → Encoder × Nat) (p : Encoder × Nat),
      (∀ p n, IsSolid p.1.written → IsSolid (f p n).1.written) → IsSolid p.1.written →
        IsSolid (ns.foldl f p).1.written := by
    intro ns f p hf
    induction ns generalizing p with
    | nil => exact fun hp => hp
    | cons n ns ih => exact fun hp => ih (f p n) (hf p n hp)
  rw [encode]
  refine hfold _ _ _ (fun p n hp => ?_) hstart
  have hput : ∀ s : Encoder, s.written = p.1.written →
      IsSolid (Encoder.put cs (cs.filter (·.toNat < 0x80)).length s n).written :=
    fun s hs => isSolid_put (hs ▸ hp) _ n
  exact hput _ rfl

end Domain.Punycode

/-! ## Names -/

namespace Domain

/-- A character of ASCII that a name may have is no blank. -/
lemma not_isBlank_of_not_isBarred {c : Char} (h : isBarred c = false) (hc : c.toNat < 0x80) :
    isBlank c = false := by
  simp only [isBarred, isControl, Bool.or_eq_false_iff, decide_eq_false_iff_not,
    Bool.and_eq_false_iff] at h
  obtain ⟨⟨⟨⟨hlow, hdelete⟩, hmarks⟩, -⟩, -⟩ := h
  have hspace : c.toNat ≠ 0x20 := by
    intro hc
    obtain rfl : c = ' ' := Char.toNat_inj.1 hc
    exact absurd hmarks (by decide)
  exact not_isBlank_of_visible (by omega) (by omega)

/-- A label has only characters that a name may have. -/
lemma not_isBarred_of_labelOf? {part label : List Char} (hpart : ∀ c ∈ part, isBarred c = false)
    (h : labelOf? part = some label) : ∀ c ∈ label, isBarred c = false := by
  rw [labelOf?] at h
  split at h
  · split at h
    · cases h
    · obtain ⟨-, hfit⟩ := Option.filter_eq_some_iff.1 h
      simp only [Bool.and_eq_true, Bool.not_eq_true', List.any_eq_false, Bool.not_eq_true] at hfit
      exact hfit.1.2
  · obtain rfl : part = label := Option.some.inj h
    exact hpart

lemma isSolid_written {label : List Char} (h : ∀ c ∈ label, isBarred c = false) :
    IsSolid (written label) := by
  rw [written]
  split
  · have hmark : IsSolid ['x', 'n', '-', '-'] :=
      .cons rfl (.cons rfl (.cons rfl (.cons rfl .nil)))
    exact hmark.append
      (Punycode.isSolid_encode fun c hc hlt => not_isBlank_of_not_isBarred (h c hc) hlt)
  · rename_i hwide
    intro c hc
    refine not_isBlank_of_not_isBarred (h c hc) ?_
    by_contra hge
    refine hwide (List.any_eq_true.2 ⟨c, hc, ?_⟩)
    simpa using hge

/-- A domain name is written without blanks. -/
lemma isSolid_toAscii {name ascii : List Char} (h : toAscii? name = some ascii) :
    IsSolid ascii := by
  rw [toAscii?] at h
  split at h
  · cases h
  · rename_i hbarred
    have hname : ∀ c ∈ folded name, isBarred c = false := by
      simpa using hbarred
    obtain ⟨labels, hlabels, h⟩ := Option.bind_eq_some_iff.1 h
    split at h
    · obtain rfl := Option.some.inj h
      refine .intercalate rfl fun w hw => ?_
      obtain ⟨label, hlabel, rfl⟩ := List.mem_map.1 hw
      obtain ⟨part, hpart, hread⟩ := exists_of_mem_mapM hlabels hlabel
      exact isSolid_written (not_isBarred_of_labelOf?
        (fun c hc => hname c (mem_of_mem_splitWhere hpart hc)) hread)
    · cases h

end Domain

/-! ## Percent encoding -/

lemma Percent.isSolid_byteDigits (b : UInt8) : IsSolid (byteDigits b) := by
  have hdigit : ∀ d < 16, isBlank (Nat.digitChar d).toUpper = false := by decide
  have hlt := b.toNat_lt
  exact .cons (hdigit _ (by omega)) (.cons (hdigit _ (Nat.mod_lt _ (by omega))) .nil)

/-- What is encoded has no blanks if the set has all of them that occur. -/
lemma Percent.isSolid_encode {set : Char → Bool} {s : List Char}
    (h : ∀ c ∈ s, set c = false → isBlank c = false) : IsSolid (encode set s) := by
  refine .flatMap fun c hc => ?_
  split
  · exact .flatMap fun b _ => .cons rfl (isSolid_byteDigits b)
  · rename_i hset
    exact .cons (h c hc (by simpa using hset)) .nil

/-- A set with all controls and the space in it has all blanks. -/
lemma Percent.not_isBlank_of_not_isControl {c : Char} (hcontrol : isControl c = false)
    (hspace : c ≠ ' ') : isBlank c = false := by
  have hne : c.toNat ≠ 0x20 := fun hc => hspace (Char.toNat_inj.1 hc)
  simp only [isControl, Bool.or_eq_false_iff, decide_eq_false_iff_not] at hcontrol
  exact not_isBlank_of_visible (by omega) (by omega)

/-! ## Hosts -/

/-- A host is written without blanks. -/
lemma Host.isSolid_chars {special : Bool} {s : List Char} {host : Host}
    (h : Host.ofChars? special s = some host) : IsSolid host.chars := by
  rw [ofChars?.eq_def] at h
  split at h
  · rename_i r
    rw [ofBrackets?] at h
    split at h
    · obtain ⟨ip, -, rfl⟩ := Option.map_eq_some_iff.1 h
      exact .cons rfl ((Ipv6.isSolid_shortened _).append (.cons rfl .nil))
    · cases h
  · split at h
    · dsimp only at h
      split at h
      · cases h
      · split at h
        · cases h
        · cases h
        · rename_i ascii _ hascii
          split at h
          · obtain ⟨ip, -, rfl⟩ := Option.map_eq_some_iff.1 h
            exact ip.isSolid_chars
          · obtain rfl := Option.some.inj h
            exact Domain.isSolid_toAscii hascii
    · split at h
      · cases h
      · rename_i hforbidden
        obtain rfl := Option.some.inj h
        refine Percent.isSolid_encode fun c hc hset => ?_
        refine Percent.not_isBlank_of_not_isControl hset ?_
        rintro rfl
        exact hforbidden (List.any_eq_true.2 ⟨' ', hc, by decide⟩)

end UpnpGateway.Net
